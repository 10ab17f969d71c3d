import RouteMask.Mask.Normal
import RouteMask.Proofs.Mask.Grammar
import RouteMask.Proofs.Mask.Relative
import RouteMask.Proofs.Url.Origin

/-! # Masks with an origin

A mask that is an origin and a path, without a wildcard and without a mark of a query or a fragment,
is in normal form (`MaskText.normalize_append`).  Its colons are escaped when its path is one for the
recognition of structure (`Skeleton.escape_of_isPath`); otherwise none of them is, as long as the
path holds no colon (`Skeleton.escape_of_not_isPath`). -/

namespace RouteMask

/-! ### Escaping and recognising -/

namespace Skeleton

theorem escapeColons_append (s t : Text) :
    escapeColons (s ++ t) = escapeColons s ++ escapeColons t :=
  List.flatMap_append

theorem escapeColons_eq_self {s : Text} (h : ':' ∉ s) : escapeColons s = s := by
  induction s with
  | nil => rfl
  | cons c s ih =>
      rw [List.mem_cons, not_or] at h
      have hc : c ≠ ':' := fun hc => h.1 hc.symm
      have hcons : escapeColons (c :: s) =
          (if c = ':' then ['\\', ':'] else [c]) ++ escapeColons s := rfl
      rw [hcons, if_neg hc, ih h.2]
      rfl

theorem escapeFirstColon_eq_self {s : Text} (h : ':' ∉ s) : escapeFirstColon s = s := by
  induction s with
  | nil => rfl
  | cons c s ih =>
      rw [List.mem_cons, not_or] at h
      rw [escapeFirstColon, if_neg fun hc => h.1 hc.symm, ih h.2]

theorem escapeFirstColon_append {s : Text} (h : ':' ∉ s) (t : Text) :
    escapeFirstColon (s ++ ':' :: t) = s ++ '\\' :: ':' :: t := by
  induction s with
  | nil => rfl
  | cons c s ih =>
      rw [List.mem_cons, not_or] at h
      rw [List.cons_append, escapeFirstColon, if_neg fun hc => h.1 hc.symm, ih h.2]
      rfl

/-- A structure without colons is escaped by leaving it alone. -/
theorem escaped_eq_text {found : Skeleton} (h : ':' ∉ found.text) : found.escaped = found.text := by
  obtain ⟨scheme, host, port, path⟩ := found
  simp only [text, List.mem_append, not_or] at h
  obtain ⟨⟨⟨hscheme, hhost⟩, hport⟩, -⟩ := h
  have hescaped : escapedHost host = host.text := by
    cases host with
    | bracketed address => exact escapeColons_eq_self hhost
    | plain text => rfl
  unfold escaped text
  rw [escapeFirstColon_eq_self hscheme, hescaped, escapeColons_eq_self hport]

theorem splitPort_append (s : Text) : (splitPort s).1 ++ (splitPort s).2 = s := by
  unfold splitPort
  split
  · dsimp only
    split
    · simp [List.takeWhile_append_dropWhile]
    · rfl
  · rfl

theorem splitLastPort_append (s : Text) :
    (splitLastPort s).2.reverse ++ (splitLastPort s).1 = s.reverse := by
  unfold splitLastPort
  dsimp only
  split
  · next before hdrop =>
      split
      · have hs : s = s.takeWhile Char.isDigit ++ ':' :: before := by
          rw [← hdrop, List.takeWhile_append_dropWhile]
        conv => rhs; rw [hs]
        simp
      · simp
  · simp

/-- What is recognised is the text behind the scheme. -/
theorem text_of_at? {scheme behind s : Text} {found : Skeleton}
    (h : at? scheme behind s = some found) : found.text = scheme ++ s := by
  unfold at? at h
  rcases Option.or_eq_some_iff.mp h with h | ⟨-, h⟩
  · unfold bracketedAt? at h
    split at h
    · next inside _ =>
        dsimp only at h
        split at h
        · next rest hrest =>
            split at h
            · cases h
              have hinside : inside = inside.takeWhile isAddressChar ++ ']' :: rest := by
                rw [← hrest, List.takeWhile_append_dropWhile]
              conv => rhs; rw [hinside]
              simp [text, HostMask.text, splitPort_append]
            · cases h
        · cases h
    · cases h
  · unfold plainAt? at h
    dsimp only at h
    split at h
    · cases h
      have hhost := splitLastPort_append (s.takeWhile isHostChar).reverse
      rw [List.reverse_reverse] at hhost
      simp only [text, HostMask.text, List.append_assoc]
      rw [← List.append_assoc _ _ (s.dropWhile isHostChar), hhost, List.takeWhile_append_dropWhile]
    · cases h

theorem text_of_findFrom? {behind s before : Text} {found : Skeleton}
    (h : findFrom? behind s = some (before, found)) : before ++ found.text = s := by
  induction s generalizing behind before with
  | nil => cases h
  | cons c rest ih =>
      unfold findFrom? at h
      split at h
      · next hat =>
          cases h
          exact text_of_at? hat
      · obtain ⟨⟨before', found'⟩, hrest, heq⟩ := Option.map_eq_some_iff.mp h
        cases heq
        rw [List.cons_append, ih hrest]

theorem append_of_splitScheme? {s scheme rest : Text} (h : splitScheme? s = some (scheme, rest)) :
    scheme ++ rest = s := by
  unfold splitScheme? at h
  split at h
  · cases h
    rfl
  · dsimp only at h
    split at h
    · next hslashes =>
        split at h
        · cases h
          have htext := List.takeWhile_append_dropWhile (p := isSegmentChar) (l := s)
          rw [hslashes] at htext
          simpa using htext
        · cases h
    · cases h

/-- What is found is the text, from where it is found on. -/
theorem text_of_find? {mask before : Text} {found : Skeleton}
    (h : find? mask = some (before, found)) : before ++ found.text = mask := by
  unfold find? at h
  split at h
  · next scheme rest hscheme =>
      split at h
      · next hat =>
          cases h
          rw [List.nil_append, text_of_at? hat]
          exact append_of_splitScheme? hscheme
      · exact text_of_findFrom? h
  · exact text_of_findFrom? h

/-- A mask without colons is left alone. -/
theorem escape_eq_self {mask : Text} (h : ':' ∉ mask) : escape mask = mask := by
  unfold escape
  cases hfound : find? mask with
  | none => rfl
  | some found =>
      obtain ⟨before, found⟩ := found
      have htext := text_of_find? hfound
      have hfree : ':' ∉ found.text := by
        intro hc
        rw [← htext] at h
        exact h (List.mem_append_right before hc)
      dsimp only
      rw [escaped_eq_text hfree, htext]

/-- In front of a text either the first place is found, or there is none and the search goes on. -/
theorem findFrom?_cases (behind a s : Text) :
    (∃ front t found, a = front ++ t ∧ t ≠ [] ∧
      at? [] (front.reverse ++ behind) (t ++ s) = some found ∧
      findFrom? behind (a ++ s) = some (front, found)) ∨
    (∀ front t, a = front ++ t → t ≠ [] → at? [] (front.reverse ++ behind) (t ++ s) = none) ∧
      findFrom? behind (a ++ s) =
        (findFrom? (a.reverse ++ behind) s).map fun (before, found) => (a ++ before, found) := by
  induction a generalizing behind with
  | nil =>
      refine Or.inr ⟨fun front t ht hne => ?_, by simp⟩
      exact absurd (List.append_eq_nil_iff.mp ht.symm).2 hne
  | cons c a ih =>
      cases hat : at? [] behind (c :: a ++ s) with
      | some found =>
          refine Or.inl ⟨[], c :: a, found, rfl, List.cons_ne_nil c a, hat, ?_⟩
          rw [List.cons_append] at hat ⊢
          rw [findFrom?, hat]
      | none =>
          have hnext : findFrom? behind (c :: a ++ s) =
              (findFrom? (c :: behind) (a ++ s)).map fun (before, found) => (c :: before, found) := by
            rw [List.cons_append] at hat ⊢
            rw [findFrom?, hat]
          rcases ih (c :: behind) with ⟨front, t, found, rfl, hne, hfound, hfind⟩ | ⟨hnone, hfind⟩
          · refine Or.inl ⟨c :: front, t, found, rfl, hne, ?_, ?_⟩
            · simpa using hfound
            · rw [hnext, hfind]
              rfl
          · refine Or.inr ⟨fun front t ht hne => ?_, ?_⟩
            · cases front with
              | nil =>
                  rw [List.nil_append] at ht
                  rw [← ht]
                  exact hat
              | cons d front =>
                  obtain ⟨rfl, hrest⟩ := List.cons.inj ht
                  simpa using hnone front t hrest hne
            · rw [hnext, hfind, Option.map_map]
              simp [Function.comp_def]

/-- Where nothing is recognised the search goes on. -/
theorem findFrom?_append {a s : Text}
    (h : ∀ t, t ≠ [] → t <:+ a → ∀ behind, at? [] behind (t ++ s) = none) (behind : Text) :
    findFrom? behind (a ++ s) =
      (findFrom? (a.reverse ++ behind) s).map fun (before, found) => (a ++ before, found) := by
  rcases findFrom?_cases behind a s with ⟨front, t, found, rfl, hne, hat, -⟩ | ⟨-, hfind⟩
  · rw [h t hne (List.suffix_append front t)] at hat
    cases hat
  · exact hfind

theorem at?_eq_none {scheme behind s : Text} (hbracket : s.head? ≠ some '[')
    (hpath : s.head? = some '/' ∨ isPath (s.dropWhile isHostChar) = false) :
    at? scheme behind s = none := by
  have hbracketed : bracketedAt? scheme s = none := by
    unfold bracketedAt?
    split
    · exact absurd rfl hbracket
    · rfl
  have hplain : plainAt? scheme behind s = none := by
    unfold plainAt?
    refine if_neg ?_
    simp only [Bool.and_eq_true, not_and, Bool.not_eq_true]
    intro hhost
    rcases hpath with hslash | hpath
    · obtain ⟨rest, rfl⟩ := List.head?_eq_some_iff.mp hslash
      cases hhost.1
    · exact hpath
  rw [at?, hbracketed, hplain]
  rfl

end Skeleton

/-- The text of a site with its colons escaped. -/
def Site.escaped (site : Site) : Text :=
  site.scheme ++ "\\://".toList ++ Skeleton.escapedHost site.host ++
    if site.port = [] then [] else '\\' :: ':' :: site.port

namespace Skeleton

/-! ### The structure of a site -/

variable {site : Site}

theorem isHostChar_of_mem_scheme (site : Site) :
    ∀ c ∈ site.scheme ++ [':'], isHostChar c = true := by
  intro c hc
  rcases List.mem_append.mp hc with hc | hc
  · have := site.range_of_mem_scheme hc
    exact isHostChar_of_range (by omega) (by omega) (by omega)
  · obtain rfl := List.mem_singleton.mp hc
    decide

theorem isSchemeName_scheme (site : Site) : IsSchemeName site.scheme := by
  refine ⟨site.scheme_ne_nil, fun c hc => ⟨?_, ?_⟩⟩
  · exact isSegmentChar_of_isHostChar
      (isHostChar_of_mem_scheme site c (List.mem_append_left [':'] hc))
  · rintro rfl
    exact site.colon_not_mem_scheme hc

theorem isAddress_host (site : Site) : site.host.IsAddress := by
  have hsimple := site.host_isSimple
  cases hhost : site.host with
  | bracketed address =>
      rw [hhost] at hsimple
      exact hsimple
  | plain name =>
      rw [hhost] at hsimple
      refine ⟨hsimple.1, fun c hc => (hsimple.2 c hc).1, not_endsInPort fun hcolon => ?_⟩
      exact (hsimple.2 _ hcolon).2 (by decide)

theorem isPort_portPart (site : Site) (hlen : site.port.length ≤ 5) :
    site.portPart = [] ∨ IsPort site.portPart := by
  unfold Site.portPart
  split
  · exact Or.inl rfl
  · next hport =>
      exact Or.inr ⟨site.port, rfl, List.length_pos_iff.mpr hport, hlen, site.isDigit_of_mem_port⟩

/-- In a name nothing is recognised whose path is none. -/
theorem findFrom?_name {name rest : Text} (hname : ∀ c ∈ name, isHostChar c = true)
    (h : isPath ('/' :: rest) = false) (behind : Text) :
    findFrom? behind (name ++ '/' :: rest) =
      (findFrom? (name.reverse ++ behind) ('/' :: rest)).map fun (before, found) =>
        (name ++ before, found) := by
  refine findFrom?_append (fun t ht hsuffix behind => ?_) behind
  have hall : ∀ c ∈ t, isHostChar c = true := fun c hc => hname c (hsuffix.subset hc)
  have hslash : ¬ isHostChar '/' = true := by decide
  refine at?_eq_none ?_ (Or.inr ?_)
  · obtain ⟨c, t, rfl⟩ := List.exists_cons_of_ne_nil ht
    intro hhead
    have := hall c List.mem_cons_self
    rw [Option.some.inj hhead] at this
    exact absurd this (by decide)
  · rw [List.dropWhile_append_of_pos hall, List.dropWhile_cons_of_neg hslash]
    exact h

/-- Nothing is recognised at a slash. -/
theorem findFrom?_slash (behind rest : Text) :
    findFrom? behind ('/' :: rest) =
      (findFrom? ('/' :: behind) rest).map fun (before, found) => ('/' :: before, found) := by
  have hat : at? [] behind ('/' :: rest) = none := by
    refine at?_eq_none ?_ (Or.inl rfl)
    exact fun h => absurd (Option.some.inj h) (by decide)
  rw [findFrom?, hat]

theorem isHostChar_of_mem_authority (o : Origin) : ∀ c ∈ o.authority, isHostChar c = true := by
  intro c hc
  have := o.range_of_mem_authority hc
  exact isHostChar_of_range ⟨this.1, this.2.1⟩ this.2.2.1 this.2.2.2

/-- In an origin nothing is recognised whose path is none. -/
theorem findFrom?_origin (o : Origin) {path : Text} (hpath : path.head? = some '/')
    (h : isPath path = false) (behind : Text) :
    findFrom? behind (o.text ++ path) =
      (findFrom? (o.text.reverse ++ behind) path).map fun (before, found) =>
        (o.text ++ before, found) := by
  obtain ⟨rest, rfl⟩ := List.head?_eq_some_iff.mp hpath
  have htext : o.text ++ '/' :: rest =
      (o.scheme ++ [':']) ++ '/' :: '/' :: (o.authority ++ '/' :: rest) := by simp [Origin.text]
  have hscheme : ∀ c ∈ o.scheme ++ [':'], isHostChar c = true := isHostChar_of_mem_scheme o.site
  rw [htext, findFrom?_name hscheme (isPath_slashes _), findFrom?_slash,
    findFrom?_slash, findFrom?_name (isHostChar_of_mem_authority o) h]
  simp [Origin.text, Option.map_map, Function.comp_def]

theorem find?_append (site : Site) (hlen : site.port.length ≤ 5) {path : Text}
    (hpath : path = [] ∨ path.head? = some '/') :
    find? (site.text ++ path) =
      if isPath path then some ([], ⟨site.scheme ++ "://".toList, site.host, site.portPart, path⟩)
      else findFrom? [] (site.text ++ path) := by
  have htext : site.text ++ path =
      site.scheme ++ "://".toList ++ (site.host.text ++ site.portPart ++ path) := by
    simp [Site.text, Site.authority]
  rw [htext]
  exact find?_name (isSchemeName_scheme site) (isAddress_host site) (isPort_portPart site hlen) hpath

/-- The colons in front of a path are escaped. -/
theorem escape_of_isPath (site : Site) (hlen : site.port.length ≤ 5) {path : Text} (h : isPath path = true) :
    escape (site.text ++ path) = site.escaped ++ path := by
  have hpath := head?_of_isPath h
  have hport : escapeColons site.portPart =
      if site.port = [] then [] else '\\' :: ':' :: site.port := by
    unfold Site.portPart
    split
    · rfl
    · have hcons : escapeColons (':' :: site.port) = '\\' :: ':' :: escapeColons site.port := rfl
      rw [hcons, escapeColons_eq_self site.colon_not_mem_port]
  have hscheme : escapeFirstColon (site.scheme ++ "://".toList) = site.scheme ++ "\\://".toList :=
    escapeFirstColon_append site.colon_not_mem_scheme _
  unfold escape
  rw [find?_append site hlen hpath, if_pos h]
  simp only [escaped, hport, hscheme, Site.escaped, List.nil_append, List.append_assoc]

/-- Where the path is none for the recognition of structure, no colon is escaped. -/
theorem escape_of_not_isPath {o : Origin} (hlen : o.port.length ≤ 5) {path : Text}
    (hpath : path.head? = some '/') (hcolon : ':' ∉ path) (h : isPath path = false) :
    escape (o.text ++ path) = o.text ++ path := by
  have hfind : find? (o.text ++ path) = findFrom? [] (o.text ++ path) := by
    have hsite := find?_append o.site hlen (Or.inr hpath)
    rw [h, if_neg Bool.false_ne_true] at hsite
    exact hsite
  unfold escape
  rw [hfind, findFrom?_origin o hpath h]
  cases hfound : findFrom? (o.text.reverse ++ []) path with
  | none => rfl
  | some found =>
      obtain ⟨before, found⟩ := found
      have htext := text_of_findFrom? hfound
      have hfree : ':' ∉ found.text := by
        intro hc
        rw [← htext] at hcolon
        exact hcolon (List.mem_append_right before hc)
      simp only [Option.map_some]
      rw [escaped_eq_text hfree, List.append_assoc, htext]

end Skeleton

/-! ### Normal form -/

/-- Without stars there is nothing to expand. -/
theorem Wildcard.expand_eq_self {mask : Text} (h : '*' ∉ mask) : Wildcard.expand mask = mask := by
  suffices hfrom : ∀ before, Wildcard.expandFrom before mask = mask from hfrom _
  induction mask with
  | nil => exact fun _ => rfl
  | cons c mask ih =>
      intro before
      rw [List.mem_cons, not_or] at h
      rw [Wildcard.expandFrom, if_neg fun hc => h.1 hc.symm, ih h.2]

/-- The stars of a mask with an origin are those of its path. -/
theorem Origin.star_not_mem_append (o : Origin) {path : Text} (hstar : '*' ∉ path) :
    '*' ∉ o.text ++ path := by
  intro h
  rcases List.mem_append.mp h with h | h
  · have := o.range_of_mem_text h
    exact absurd this (by decide)
  · exact hstar h

namespace MaskText

variable {o : Origin} {path : Text}

theorem isAbsolute_append (o : Origin) (path : Text) : isAbsolute (o.text ++ path) = true := by
  rw [Origin.text, List.append_assoc]
  exact isAbsolute_of_isScheme o.site.isScheme _

/-- An absolute mask without marks is in normal form. -/
theorem normalize_append (hmarks : ∀ c ∈ path, c ≠ '?' ∧ c ≠ '#') (base : Option Text) :
    normalize (o.text ++ path) base = .ok (o.text ++ path) := by
  have hkept : ∀ c ∈ o.text ++ path, (c != '?' && c != '#') = true := by
    intro c hc
    rw [Bool.and_eq_true, bne_iff_ne, bne_iff_ne]
    rcases List.mem_append.mp hc with hc | hc
    · have := o.range_of_mem_text hc
      constructor
      · rintro rfl
        exact absurd this (by decide)
      · rintro rfl
        exact absurd this (by decide)
    · exact hmarks c hc
  have hwithout : withoutQuery (o.text ++ path) = o.text ++ path := by
    unfold withoutQuery
    split
    · rfl
    · rw [← List.append_nil (o.text ++ path), List.takeWhile_append_of_pos hkept]
      simp
  unfold normalize absolute
  rw [isAbsolute_append, Bool.true_or, if_pos rfl, Except.map, hwithout]

/-- The template of a mask without stars. -/
theorem template_append (hstar : '*' ∉ path) :
    template (o.text ++ path) = Skeleton.escape (o.text ++ path) := by
  rw [template, Wildcard.expand_eq_self (o.star_not_mem_append hstar)]

end MaskText

end RouteMask
