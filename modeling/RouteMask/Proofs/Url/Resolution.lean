import RouteMask.Proofs.Mask.Relative
import RouteMask.Proofs.Url.Canonical
import RouteMask.Proofs.Url.Reserved

/-! # Resolving a rooted mask

A mask that begins with a single slash is resolved against an origin by putting it behind the origin
again, but not always as it was (`Url.rejoin`): dot segments go, and so do the marks of empty
parameters, of an empty query and of an empty fragment.  Encoding for resolving commutes with cutting
at these marks, so the escapes play no part in this (`Url.resolve_encode`), and decoding takes them back
(`MaskText.absolute_rooted`). -/

namespace RouteMask

open Percent MaskText

/-- The text begins with exactly one slash. -/
def IsRooted (s : Text) : Prop :=
  s.head? = some '/' ∧ s.take 2 ≠ ['/', '/']

instance (s : Text) : Decidable (IsRooted s) :=
  inferInstanceAs (Decidable (_ ∧ _))

theorem encode_resolvable_inj {s t : Text} : encode resolvable s = encode resolvable t ↔ s = t :=
  encode_inj (by decide)

theorem encode_eq_nil_iff {s : Text} : encode resolvable s = [] ↔ s = [] :=
  encode_resolvable_inj (t := [])

theorem head?_encode_eq_slash_iff {s : Text} :
    (encode resolvable s).head? = some '/' ↔ s.head? = some '/' := by
  have hslash : IsMark resolvable '/' := by decide
  constructor
  · intro h
    cases s with
    | nil => cases h
    | cons c s =>
        have hmem : '/' ∈ encode resolvable [c] := by
          have hne : encode resolvable [c] ≠ [] := encode_ne_nil (List.cons_ne_nil _ _)
          obtain ⟨d, rest, hd⟩ := List.exists_cons_of_ne_nil hne
          have hcons : encode resolvable (c :: s) = encode resolvable [c] ++ encode resolvable s :=
            encode_append resolvable [c] s
          rw [hcons, hd] at h
          rw [hd]
          exact Option.some.inj h ▸ List.mem_cons_self ..
        obtain rfl := List.mem_singleton.mp (hslash.mem_encode_iff.mp hmem)
        rfl
  · intro h
    obtain ⟨rest, rfl⟩ := List.head?_eq_some_iff.mp h
    rw [hslash.encode_cons]
    rfl

namespace Url

/-! ### The last segment -/

/-- The text behind the last slash. -/
def lastSegment (path : Text) : Text :=
  (path.reverse.takeWhile (· != '/')).reverse

theorem not_mem_lastSegment (path : Text) : '/' ∉ lastSegment path := by
  intro h
  have := List.all_eq_true.mp List.all_takeWhile '/' (List.mem_reverse.mp h)
  simp at this

theorem exists_append_lastSegment (path : Text) :
    ∃ d, path = d ++ lastSegment path ∧ (d = [] ∨ d.getLast? = some '/') := by
  refine ⟨(path.reverse.dropWhile (· != '/')).reverse, ?_, ?_⟩
  · rw [lastSegment, ← List.reverse_append, List.takeWhile_append_dropWhile, List.reverse_reverse]
  · rw [List.getLast?_reverse]
    cases h : path.reverse.dropWhile (· != '/') with
    | nil => exact .inl rfl
    | cons c rest =>
        have := List.head?_dropWhile_not (· != '/') path.reverse
        rw [h] at this
        right
        simpa using this

theorem lastSegment_append {d l : Text} (hl : '/' ∉ l) (hd : d = [] ∨ d.getLast? = some '/') :
    lastSegment (d ++ l) = l := by
  have hall := Text.bne_of_not_mem (mt List.mem_reverse.mp hl)
  have hstop : d.reverse.takeWhile (· != '/') = [] := by
    rcases hd with rfl | hd
    · rfl
    · rw [← List.head?_reverse] at hd
      obtain ⟨rest, hrest⟩ := List.head?_eq_some_iff.mp hd
      rw [hrest]
      rfl
  rw [lastSegment, List.reverse_append, List.takeWhile_append_of_pos hall, hstop, List.append_nil,
    List.reverse_reverse]

/-- The path without the parameters of its last segment, and the parameters. -/
def cutParameters (path : Text) : Text × Text :=
  match Text.cut? (· == ';') (lastSegment path) with
  | some (segment, parameters) =>
    (path.take (path.length - (lastSegment path).length) ++ segment, parameters)
  | none => (path, [])

theorem splitParameters_eq {scheme : Text} (h : parameterSchemes.contains scheme = true)
    (path : Text) : splitParameters scheme path = cutParameters path :=
  if_pos h

theorem cutParameters_append {d l : Text} (hl : '/' ∉ l) (hd : d = [] ∨ d.getLast? = some '/') :
    cutParameters (d ++ l) =
      match Text.cut? (· == ';') l with
      | some (segment, parameters) => (d ++ segment, parameters)
      | none => (d ++ l, []) := by
  have htake : (d ++ l).take ((d ++ l).length - l.length) = d := by simp
  rw [cutParameters, lastSegment_append hl hd, htake]

theorem cutParameters_encode (path : Text) :
    cutParameters (encode resolvable path) =
      (encode resolvable (cutParameters path).1, encode resolvable (cutParameters path).2) := by
  have hslash : IsMark resolvable '/' := by decide
  have hsemicolon : IsMark resolvable ';' := by decide
  obtain ⟨d, hpath, hd⟩ := exists_append_lastSegment path
  have hl := not_mem_lastSegment path
  generalize lastSegment path = l at hpath hl
  subst hpath
  have hd' : encode resolvable d = [] ∨ (encode resolvable d).getLast? = some '/' := by
    rcases hd with rfl | hd
    · exact .inl rfl
    · obtain ⟨e, rfl⟩ := List.getLast?_eq_some_iff.mp hd
      right
      rw [encode_append, hslash.encode_cons]
      simp [encode]
  rw [encode_append, cutParameters_append (fun h => hl (hslash.mem_encode_iff.mp h)) hd',
    cutParameters_append hl hd, hsemicolon.cut?_encode]
  cases Text.cut? (· == ';') l with
  | none => simp [encode]
  | some parts => simp [encode]

theorem joinParameters_encode (path parameters : Text) :
    joinParameters (encode resolvable path) (encode resolvable parameters) =
      encode resolvable (joinParameters path parameters) := by
  have hsemicolon : IsMark resolvable ';' := by decide
  unfold joinParameters
  simp only [List.isEmpty_iff, encode_eq_nil_iff]
  split
  · rfl
  · rw [encode_append, hsemicolon.encode_cons]

/-! ### Segments -/

theorem encode_eq_dot_iff {s : Text} : encode resolvable s = ['.'] ↔ s = ['.'] :=
  encode_resolvable_inj (t := ['.'])

theorem encode_eq_dots_iff {s : Text} : encode resolvable s = ['.', '.'] ↔ s = ['.', '.'] :=
  encode_resolvable_inj (t := ['.', '.'])

theorem dropDots_map_encode (done segments : List Text) :
    dropDots (done.map (encode resolvable)) (segments.map (encode resolvable)) =
      (dropDots done segments).map (encode resolvable) := by
  induction segments generalizing done with
  | nil => simp [dropDots]
  | cons segment rest ih =>
      simp only [List.map_cons, dropDots, encode_eq_dot_iff, encode_eq_dots_iff]
      split
      · rw [← List.map_drop, ih]
      split
      · exact ih done
      · exact ih (segment :: done)

theorem intercalate_map_encode (segments : List Text) :
    List.intercalate ['/'] (segments.map (encode resolvable)) =
      encode resolvable (List.intercalate ['/'] segments) := by
  have hslash : IsMark resolvable '/' := by decide
  induction segments with
  | nil => rfl
  | cons a rest ih =>
      cases rest with
      | nil => simp [List.intercalate]
      | cons b rest =>
          rw [List.map_cons] at ih ⊢
          rw [List.map_cons, List.intercalate_cons_cons, List.intercalate_cons_cons, ih,
            List.append_assoc, List.append_assoc, encode_append, List.singleton_append,
            List.singleton_append, hslash.encode_cons]

theorem resolvePath_encode (base : Text) {path : Text} (h : path.head? = some '/') :
    resolvePath base (encode resolvable path) = encode resolvable (resolvePath [] path) := by
  have hslash : IsMark resolvable '/' := by decide
  have hlast : ((Text.splitOn ['/'] path).map (encode resolvable)).getLast?.getD [] =
      encode resolvable ((Text.splitOn ['/'] path).getLast?.getD []) := by
    rw [List.getLast?_map]
    cases (Text.splitOn ['/'] path).getLast? <;> rfl
  have hnil := dropDots_map_encode [] (Text.splitOn ['/'] path)
  rw [List.map_nil] at hnil
  unfold resolvePath
  simp only [head?_encode_eq_slash_iff.mpr h, h, if_true, hslash.splitOn_encode, hlast, hnil,
    encode_eq_dot_iff, encode_eq_dots_iff, List.isEmpty_iff]
  split
  · have hmap : (dropDots [] (Text.splitOn ['/'] path)).map (encode resolvable) ++ [[]] =
        (dropDots [] (Text.splitOn ['/'] path) ++ [[]]).map (encode resolvable) := by simp [encode]
    rw [hmap, intercalate_map_encode]
    simp only [encode_eq_nil_iff]
    split
    · rfl
    · rfl
  · rw [intercalate_map_encode]
    simp only [encode_eq_nil_iff]
    split
    · rfl
    · rfl

/-! ### Splitting an encoded mask -/

theorem splitMark_encode {mark : Char} (h : IsMark resolvable mark) (s : Text) :
    splitMark mark (encode resolvable s) =
      (encode resolvable (splitMark mark s).1, encode resolvable (splitMark mark s).2) := by
  unfold splitMark
  rw [h.cut?_encode]
  cases Text.cut? (· == mark) s with
  | none => rfl
  | some parts => rfl

theorem tidy_eq_self {s : Text} (h : ∀ c ∈ s, 0x20 < c.toNat) : tidy s = s := by
  have hdrop : s.dropWhile (fun c => c.toNat ≤ 0x20) = s := by
    cases s with
    | nil => rfl
    | cons c s =>
        have hc := h c (List.mem_cons_self ..)
        exact List.dropWhile_cons_of_neg (by simpa using hc)
  rw [tidy, hdrop]
  refine List.filter_eq_self.mpr fun c hc => ?_
  have := h c hc
  simp only [Bool.and_eq_true, bne_iff_ne, ne_eq, Text.eq_iff_toNat, Char.reduceToNat]
  omega

theorem lt_of_mem_encode {s : Text} {c : Char} (h : c ∈ encode resolvable s) : 0x20 < c.toNat := by
  rcases of_mem_encode h with h | h | rfl
  · have := unreserved_iff.mp h
    omega
  · have hall : ∀ d ∈ resolvable, 0x20 < d.toNat := by decide
    exact hall c h
  · decide

theorem splitScheme?_slash (s : Text) : splitScheme? ('/' :: s) = none := by
  have hcut : Text.cut? (· == ':') ('/' :: s) =
      (Text.cut? (· == ':') s).map fun parts => ('/' :: parts.1, parts.2) := rfl
  have hslash : '/'.isAlpha = false := by decide
  rw [splitScheme?, hcut]
  cases Text.cut? (· == ':') s with
  | none => rfl
  | some parts => simp [hslash]

/-- A text that does not begin with two slashes has no authority. -/
theorem splitAuthority_encode {s : Text} (h : s.take 2 ≠ ['/', '/']) :
    splitAuthority (encode resolvable s) = ([], encode resolvable s) := by
  have hslash : IsMark resolvable '/' := by decide
  unfold splitAuthority
  split
  · next more heq =>
      obtain ⟨rest, rfl⟩ :=
        List.head?_eq_some_iff.mp (head?_encode_eq_slash_iff.mp (by rw [heq]; rfl))
      rw [hslash.encode_cons] at heq
      obtain ⟨rest', rfl⟩ :=
        List.head?_eq_some_iff.mp (head?_encode_eq_slash_iff.mp (by rw [(List.cons.inj heq).2]; rfl))
      exact absurd rfl h
  · rfl

theorem parse_encode {s : Text} (h : IsRooted s) (scheme : Text) :
    parse scheme (encode resolvable s) =
      .ok ⟨scheme, [], encode resolvable (splitMark '?' (splitMark '#' s).1).1,
        encode resolvable (splitMark '?' (splitMark '#' s).1).2,
        encode resolvable (splitMark '#' s).2⟩ := by
  have hslash : IsMark resolvable '/' := by decide
  have hauthority := splitAuthority_encode h.2
  obtain ⟨rest, rfl⟩ := List.head?_eq_some_iff.mp h.1
  have hscheme : splitScheme? (encode resolvable ('/' :: rest)) = none := by
    rw [hslash.encode_cons]
    exact splitScheme?_slash _
  unfold parse
  simp only [tidy_eq_self fun c hc => lt_of_mem_encode hc, hscheme, Option.getD_none, hauthority,
    splitMark_encode (by decide : IsMark resolvable '#'),
    splitMark_encode (by decide : IsMark resolvable '?')]
  rfl

/-! ### Schemes of the web -/

section Web

variable {scheme : Text} (hweb : scheme = "http".toList ∨ scheme = "https".toList)
include hweb

theorem isScheme_of_web : IsScheme scheme := by
  rcases hweb with rfl | rfl
  · exact ⟨⟨'h', rfl, rfl⟩, by decide⟩
  · exact ⟨⟨'h', rfl, rfl⟩, by decide⟩

theorem map_toLower_of_web : scheme.map Char.toLower = scheme := by
  rcases hweb with rfl | rfl
  · decide
  · decide

theorem contains_of_web :
    relativeSchemes.contains scheme = true ∧ parameterSchemes.contains scheme = true ∧
      authoritySchemes.contains scheme = true := by
  rcases hweb with rfl | rfl
  · decide
  · decide

end Web

/-! ### Putting a rooted mask behind an origin -/

/-- The base is the origin of a web page. -/
structure IsOrigin (base scheme authority : Text) : Prop where
  scheme_eq : scheme = "http".toList ∨ scheme = "https".toList
  authority_ne_nil : authority ≠ []
  base_eq : base = scheme ++ "://".toList ++ authority
  parse_eq : parse [] base = .ok ⟨scheme, authority, [], [], []⟩

/-- The path with a slash in front. -/
def atRoot (path : Text) : Text :=
  if !path.isEmpty && path.head? != some '/' then '/' :: path else path

/-- The text of a rooted mask as resolving puts it together again. -/
def rejoin (s : Text) : Text :=
  let rest := splitMark '#' s
  let place := splitMark '?' rest.1
  let path := cutParameters place.1
  atRoot (joinParameters (resolvePath [] path.1) path.2) ++
    (renderPart '?' place.2 ++ renderPart '#' rest.2)

theorem render_eq {scheme authority : Text} (hscheme : scheme ≠ []) (hauthority : authority ≠ [])
    (path query fragment : Text) :
    render ⟨scheme, authority, path, query, fragment⟩ =
      scheme ++ "://".toList ++ authority ++
        (atRoot path ++ (renderPart '?' query ++ renderPart '#' fragment)) := by
  simp [render, renderPlace, atRoot, hscheme, hauthority]

theorem renderPart_encode {mark : Char} (h : IsMark resolvable mark) (s : Text) :
    renderPart mark (encode resolvable s) = encode resolvable (renderPart mark s) := by
  unfold renderPart
  simp only [List.isEmpty_iff, encode_eq_nil_iff]
  split
  · rfl
  · rw [h.encode_cons]

theorem atRoot_encode (path : Text) :
    atRoot (encode resolvable path) = encode resolvable (atRoot path) := by
  have hslash : IsMark resolvable '/' := by decide
  unfold atRoot
  simp only [Bool.and_eq_true, Bool.not_eq_true', List.isEmpty_eq_false_iff, bne_iff_ne, ne_eq,
    encode_eq_nil_iff, head?_encode_eq_slash_iff]
  split
  · rw [hslash.encode_cons]
  · rfl

theorem head?_cutParameters {path : Text} (h : path.head? = some '/') :
    (cutParameters path).1.head? = some '/' := by
  obtain ⟨d, hpath, hd⟩ := exists_append_lastSegment path
  have hl := not_mem_lastSegment path
  generalize lastSegment path = l at hpath hl
  subst hpath
  have hhead : d.head? = some '/' := by
    cases d with
    | nil => exact absurd (List.mem_of_head? h) hl
    | cons c d => exact h
  obtain ⟨e, rfl⟩ := List.head?_eq_some_iff.mp hhead
  rw [cutParameters_append hl hd]
  cases Text.cut? (· == ';') l with
  | none => rfl
  | some parts => rfl

theorem head?_splitMark {mark : Char} (hmark : '/' ≠ mark) {s : Text} (h : s.head? = some '/') :
    (splitMark mark s).1.head? = some '/' := by
  obtain ⟨rest, rfl⟩ := List.head?_eq_some_iff.mp h
  have hcut : Text.cut? (· == mark) ('/' :: rest) =
      (Text.cut? (· == mark) rest).map fun parts => ('/' :: parts.1, parts.2) :=
    if_neg (by simpa using hmark)
  rw [splitMark, hcut]
  cases Text.cut? (· == mark) rest with
  | none => rfl
  | some parts => rfl

/-- A reference without authority that has a path of its own. -/
theorem resolve_eq {base reference : Text} {b r : Url} (hbase : base ≠ []) (href : reference ≠ [])
    (hb : parse [] base = .ok b) (hr : parse b.scheme reference = .ok r)
    (hscheme : r.scheme = b.scheme) (hrelative : relativeSchemes.contains b.scheme = true)
    (hparameters : parameterSchemes.contains b.scheme = true)
    (hauthorities : authoritySchemes.contains b.scheme = true) (hauthority : r.authority = [])
    (hpath : (cutParameters r.path).1 ≠ []) :
    resolve base reference =
      .ok (render ⟨b.scheme, b.authority,
        joinParameters (resolvePath (cutParameters b.path).1 (cutParameters r.path).1)
          (cutParameters r.path).2, r.query, r.fragment⟩) := by
  unfold resolve
  rw [if_neg (by simpa using hbase), if_neg (by simpa using href), hb]
  dsimp only [bind, Except.bind]
  rw [hr]
  dsimp only
  rw [hscheme, if_neg (by simp [List.contains_iff_mem.mp hrelative]),
    splitParameters_eq hparameters, splitParameters_eq hparameters, hauthority, hauthorities,
    if_neg (by simp), if_neg (by simp [hpath])]
  rfl

theorem resolve_encode {base scheme authority : Text} (hbase : IsOrigin base scheme authority)
    {s : Text} (h : IsRooted s) :
    resolve base (encode resolvable s) = .ok (base ++ encode resolvable (rejoin s)) := by
  obtain ⟨hscheme, hauthority, hbase, hparse⟩ := hbase
  have hne : s ≠ [] := by
    rintro rfl
    cases h.1
  obtain ⟨hrelative, hparameters, hauthorities⟩ := contains_of_web hscheme
  have hscheme_ne := (isScheme_of_web hscheme).ne_nil
  have hbase_ne : base ≠ [] := by
    rw [hbase]
    simp
  have hhead : (splitMark '?' (splitMark '#' s).1).1.head? = some '/' :=
    head?_splitMark (by decide) (head?_splitMark (by decide) h.1)
  have hcut := head?_cutParameters hhead
  have hpath : (cutParameters (encode resolvable (splitMark '?' (splitMark '#' s).1).1)).1 ≠ [] := by
    rw [cutParameters_encode]
    intro hnil
    rw [encode_eq_nil_iff.mp hnil] at hcut
    cases hcut
  have hne' : encode resolvable s ≠ [] := fun hnil => hne (encode_eq_nil_iff.mp hnil)
  rw [resolve_eq hbase_ne hne' hparse (parse_encode h scheme) rfl hrelative hparameters hauthorities
    rfl hpath, render_eq hscheme_ne hauthority, ← hbase]
  dsimp only
  rw [cutParameters_encode, resolvePath_encode _ hcut, joinParameters_encode, atRoot_encode,
    renderPart_encode (by decide), renderPart_encode (by decide), ← encode_append, ← encode_append]
  rfl

/-! ### Characters of the outcome -/

theorem resolvePath_ne_nil (base path : Text) : resolvePath base path ≠ [] := by
  have hne : ∀ joined : Text, (if joined.isEmpty then ['/'] else joined) ≠ [] := by
    intro joined
    cases joined <;> simp
  exact hne _

theorem joinParameters_ne_nil {path : Text} (h : path ≠ []) (parameters : Text) :
    joinParameters path parameters ≠ [] := by
  unfold joinParameters
  split
  · exact h
  · simp [h]

theorem head?_atRoot {path : Text} (h : path ≠ []) : (atRoot path).head? = some '/' := by
  unfold atRoot
  split
  · rfl
  · next hcond => simpa [h] using hcond

theorem head?_rejoin (s : Text) : (rejoin s).head? = some '/' := by
  have hhead : ∀ path parameters : Text,
      (atRoot (joinParameters (resolvePath [] path) parameters)).head? = some '/' :=
    fun path parameters => head?_atRoot (joinParameters_ne_nil (resolvePath_ne_nil _ _) _)
  obtain ⟨rest, hrest⟩ := List.head?_eq_some_iff.mp (hhead
    (cutParameters (splitMark '?' (splitMark '#' s).1).1).1
    (cutParameters (splitMark '?' (splitMark '#' s).1).1).2)
  unfold rejoin
  dsimp only
  rw [hrest]
  rfl

/-- An origin has no mark of a query or a fragment. -/
theorem IsOrigin.ne_of_mem {base scheme authority : Text} (h : IsOrigin base scheme authority)
    {c : Char} (hc : c ∈ base) : c ≠ '?' ∧ c ≠ '#' := by
  have hfront : ∀ d ∈ scheme ++ "://".toList, d ≠ '?' ∧ d ≠ '#' := by
    rcases h.scheme_eq with rfl | rfl
    · decide
    · decide
  rw [h.base_eq] at hc
  rcases List.mem_append.mp hc with hc | hc
  · exact hfront c hc
  · have hmark := isAuthority_of_parse h.parse_eq c hc
    constructor
    · rintro rfl
      exact hmark (by decide)
    · rintro rfl
      exact hmark (by decide)

end Url

namespace MaskText

theorem isAbsolute_of_isRooted {s : Text} (h : IsRooted s) : isAbsolute s = false := by
  obtain ⟨rest, rfl⟩ := List.head?_eq_some_iff.mp h.1
  unfold isAbsolute
  split
  · next more heq =>
      rw [heq] at h
      exact absurd rfl h.2
  · next first more _ heq =>
      obtain ⟨rfl, rfl⟩ := List.cons.inj heq
      rfl
  · rfl

theorem isRelative_of_isRooted {s : Text} (h : IsRooted s) : IsRelative s := by
  refine ⟨isAbsolute_of_isRooted h, ?_⟩
  rw [h.1]
  decide

theorem isAbsolute_of_isOrigin {base scheme authority : Text} (h : Url.IsOrigin base scheme authority)
    (s : Text) : isAbsolute (base ++ s) = true := by
  rw [h.base_eq, List.append_assoc]
  exact isAbsolute_of_isScheme (Url.isScheme_of_web h.scheme_eq) _

/-- A rooted mask resolved against an origin. -/
theorem absolute_rooted {base scheme authority : Text} (hbase : Url.IsOrigin base scheme authority)
    {s : Text} (h : IsRooted s) :
    absolute s (some base) = .ok (decodeUnreserved base ++ Url.rejoin s) := by
  have hslash : IsMark resolvable '/' := by decide
  obtain ⟨rest, hrest⟩ := List.head?_eq_some_iff.mp (Url.head?_rejoin s)
  have hne : base ≠ [] := by
    rw [hbase.base_eq]
    simp
  rw [(isRelative_of_isRooted h).absolute_eq hne, Url.resolve_encode hbase h, Except.map, hrest, hslash.encode_cons,
    decodeUnreserved_append_encode]

end MaskText

end RouteMask
