import RouteMask.Proofs.Mask.Insertion

/-! # Colons of a path

The structure of a mask is looked for from the left.  Its first place can lie inside the path, and then a
colon of the path is taken for that of a port or of an address in brackets.  Segment by segment, only the
end of a segment can be taken for an address (`Skeleton.IsTaken`), and only where the rest of the mask is
a path; the search ends at the first such segment, and a path is caught when that one has a structural
colon (`Skeleton.IsCaught`).  The colons of a path are left alone exactly if the authority in front of it
is taken, or if the path is not caught (`Skeleton.escape_keeps_path_iff`). -/

namespace RouteMask.Skeleton

/-! ### Segments -/

/-- The segment can be taken for an address with or without a port, after some text in front of it. -/
def IsTaken (segment : Text) : Prop :=
  ∃ (front : Text) (host : HostMask) (port : Text), segment = front ++ host.text ++ port ∧
    host.IsAddress ∧ (port = [] ∨ IsPort port) ∧ ¬ EndsInPort (front ++ host.text)

/-- The segment ends in a port, or in an address in brackets that has a colon. -/
def HasStructuralColon (segment : Text) : Prop :=
  EndsInPort segment ∨ ∃ front address, segment = front ++ HostMask.text (.bracketed address) ∧
    (HostMask.bracketed address).IsAddress ∧ ':' ∈ address

/-- In the path the first segment that is taken for an address has a structural colon. -/
inductive IsCaught : Text → Prop
  | here {segment path : Text} (hslash : '/' ∉ segment) (hpath : isPath path = true)
      (htaken : IsTaken segment) (hcolon : HasStructuralColon segment) :
      IsCaught ('/' :: (segment ++ path))
  | later {segment path : Text} (hslash : '/' ∉ segment)
      (hhead : path = [] ∨ path.head? = some '/')
      (hpassed : ¬ (isPath path = true ∧ IsTaken segment)) (hpath : IsCaught path) :
      IsCaught ('/' :: (segment ++ path))

/-- Nothing in front of a path that begins with a single slash, or a scheme and an authority. -/
inductive IsFront : (scheme authority path : Text) → Prop
  | none {path : Text} (hhead : path.head? = some '/') (hsingle : ¬ "//".toList <+: path) :
      IsFront [] [] path
  | slashes {authority path : Text} (hne : authority ≠ [])
      (hchars : ∀ c ∈ authority, isSegmentChar c = true) (hhead : path = [] ∨ path.head? = some '/') :
      IsFront "//".toList authority path
  | name {name authority path : Text} (hname : ∀ c ∈ name, isSegmentChar c = true ∧ c ≠ ':')
      (hne : authority ≠ []) (hchars : ∀ c ∈ authority, isSegmentChar c = true)
      (hhead : path = [] ∨ path.head? = some '/') : IsFront (name ++ "://".toList) authority path

/-! ### Recognising -/

theorem splitPort_fst (s : Text) : (splitPort s).1 = [] ∨ IsPort (splitPort s).1 := by
  unfold splitPort
  split
  · next rest =>
      dsimp only
      split
      · next hlength =>
          rw [isPortLength_iff] at hlength
          exact Or.inr ⟨_, rfl, hlength.1, hlength.2, fun c hc => List.mem_takeWhile_imp hc⟩
      · exact Or.inl rfl
  · exact Or.inl rfl

theorem splitLastPort_fst (s : Text) : (splitLastPort s).1 = [] ∨ IsPort (splitLastPort s).1 := by
  unfold splitLastPort
  dsimp only
  split
  · split
    · next hlength =>
        rw [isPortLength_iff, ← List.length_reverse] at hlength
        exact Or.inr ⟨_, rfl, hlength.1, hlength.2,
          fun c hc => List.mem_takeWhile_imp (List.mem_reverse.mp hc)⟩
    · exact Or.inl rfl
  · exact Or.inl rfl

theorem not_endsInPort_of_splitLastPort {s : Text} (h : (splitLastPort s).1 = []) :
    ¬ EndsInPort s.reverse := by
  rintro ⟨front, port, hs, hport⟩
  have hreverse : s = port.reverse ++ front.reverse := by
    rw [← List.reverse_reverse s, hs, List.reverse_append]
  rw [hreverse, splitLastPort_append_port hport] at h
  obtain ⟨digits, rfl, -⟩ := hport
  cases h

/-- The parts of what is recognised. -/
theorem parts_of_at? {scheme behind s : Text} {found : Skeleton}
    (h : at? scheme behind s = some found) :
    found.scheme = scheme ∧ found.host.IsAddress ∧ (found.port = [] ∨ IsPort found.port) ∧
      ¬ EndsInPort (behind.reverse ++ found.host.text) ∧ isPath found.path = true := by
  unfold at? at h
  rcases Option.or_eq_some_iff.mp h with h | ⟨-, h⟩
  · unfold bracketedAt? at h
    split at h
    · dsimp only at h
      split at h
      · split at h
        · next hcond =>
            cases h
            simp only [Bool.and_eq_true, Bool.not_eq_true', List.isEmpty_eq_false_iff] at hcond
            exact ⟨rfl, ⟨hcond.1, fun c hc => List.mem_takeWhile_imp hc⟩, splitPort_fst _,
              not_endsInPort_bracketed _ _, hcond.2⟩
        · cases h
      · cases h
    · cases h
  · unfold plainAt? at h
    dsimp only at h
    split at h
    · next hcond =>
        cases h
        have hport := splitLastPort_fst (s.takeWhile isHostChar).reverse
        have hhost := splitLastPort_append (s.takeWhile isHostChar).reverse
        rw [List.reverse_reverse] at hhost
        generalize splitLastPort (s.takeWhile isHostChar).reverse = cut at hcond hport hhost
        obtain ⟨port, name⟩ := cut
        simp only [Bool.and_eq_true, Bool.not_eq_true', List.isEmpty_eq_false_iff,
          List.isEmpty_iff] at hcond
        obtain ⟨⟨hne, hlook⟩, hpath⟩ := hcond
        have hends := not_endsInPort_of_splitLastPort hlook
        rw [List.reverse_append] at hends
        have hchars : ∀ c ∈ name.reverse, isHostChar c = true := by
          intro c hc
          have hmem : c ∈ s.takeWhile isHostChar := hhost ▸ List.mem_append_left port hc
          exact List.mem_takeWhile_imp hmem
        have haddress : (HostMask.plain name.reverse).IsAddress :=
          ⟨by simpa using hne, hchars, mt (EndsInPort.append _) hends⟩
        exact ⟨rfl, haddress, hport, hends, hpath⟩
    · cases h

theorem slash_not_mem_address {host : HostMask} (hhost : host.IsAddress) {port : Text}
    (hport : port = [] ∨ IsPort port) : '/' ∉ host.text ++ port := by
  have hslash : ¬ isSegmentChar '/' = true := by decide
  intro h
  rcases List.mem_append.mp h with h | h
  · exact hslash (isSegmentChar_of_mem_host hhost h)
  · rcases hport with rfl | hport
    · cases h
    · exact hslash (isSegmentChar_of_isHostChar (isHostChar_of_mem_port hport h))

/-- What is recognised at a place in a segment is the rest of the segment, with the path behind it. -/
theorem of_at? {scheme behind segment path : Text} {found : Skeleton} (hslash : '/' ∉ segment)
    (hhead : path = [] ∨ path.head? = some '/')
    (h : at? scheme behind (segment ++ path) = some found) :
    found = ⟨scheme, found.host, found.port, path⟩ ∧ segment = found.host.text ++ found.port ∧
      found.host.IsAddress ∧ (found.port = [] ∨ IsPort found.port) ∧
      ¬ EndsInPort (behind.reverse ++ found.host.text) ∧ isPath path = true := by
  obtain ⟨hscheme, haddress, hport, hends, hpath⟩ := parts_of_at? h
  have htext := text_of_at? h
  obtain ⟨_, host, port, path'⟩ := found
  obtain rfl : _ = scheme := hscheme
  simp only [text, List.append_assoc, List.append_cancel_left_eq] at htext
  rw [← List.append_assoc] at htext
  obtain ⟨hsegment, rfl⟩ := Text.append_inj_of_not_mem (slash_not_mem_address haddress hport) hslash
    (head?_of_isPath hpath) hhead htext
  exact ⟨rfl, hsegment.symm, haddress, hport, hends, hpath⟩

/-! ### Escaping from a place on -/

/-- The text with the first structure in it escaped that has no scheme; `behind` is what has been passed
already, backwards. -/
def escapeFrom (behind s : Text) : Text :=
  match findFrom? behind s with
  | some (before, found) => before ++ found.escaped
  | none => s

theorem escapeFrom_of_find {behind a s : Text}
    (h : findFrom? behind (a ++ s) =
      (findFrom? (a.reverse ++ behind) s).map fun (before, found) => (a ++ before, found)) :
    escapeFrom behind (a ++ s) = a ++ escapeFrom (a.reverse ++ behind) s := by
  unfold escapeFrom
  rw [h]
  cases findFrom? (a.reverse ++ behind) s with
  | none => rfl
  | some place => exact List.append_assoc _ _ _

theorem escapeFrom_slash (behind s : Text) :
    escapeFrom behind ('/' :: s) = '/' :: escapeFrom ('/' :: behind) s :=
  escapeFrom_of_find (a := ['/']) (findFrom?_slash behind s)

/-- What a text becomes that is cut into a segment and the path behind it: the search ends in a segment
that is taken, and passes any other. -/
theorem escapeFrom_segment {segment path : Text} (hslash : '/' ∉ segment)
    (hhead : path = [] ∨ path.head? = some '/') (behind : Text)
    (hbehind : behind = [] ∨ behind.head? = some '/') :
    ((isPath path = true ∧ IsTaken segment) ∧ ∃ (front : Text) (host : HostMask) (port : Text),
      segment = front ++ host.text ++ port ∧ host.IsAddress ∧ (port = [] ∨ IsPort port) ∧
        ¬ EndsInPort (front ++ host.text) ∧
        escapeFrom behind (segment ++ path) = front ++ escapedHost host ++ escapeColons port ++ path) ∨
    ¬ (isPath path = true ∧ IsTaken segment) ∧
      escapeFrom behind (segment ++ path) =
        segment ++ escapeFrom (segment.reverse ++ behind) path := by
  rcases findFrom?_cases behind segment path with ⟨front, t, found, rfl, -, hat, hfind⟩ | ⟨hnone, hfind⟩
  · have ht : '/' ∉ t := fun h => hslash (List.mem_append_right front h)
    obtain ⟨hfound, rfl, haddress, hport, hends, hpath⟩ := of_at? ht hhead hat
    -- The look-behind also sees what stands in front of the segment.
    have hends' : ¬ EndsInPort (front ++ found.host.text) := by
      refine mt (EndsInPort.append behind.reverse) ?_
      simpa using hends
    refine Or.inl ⟨⟨hpath, front, found.host, found.port, by simp, haddress, hport, hends'⟩,
      front, found.host, found.port, by simp, haddress, hport, hends', ?_⟩
    unfold escapeFrom
    rw [hfind]
    dsimp only
    rw [hfound]
    simp [escaped, escapeFirstColon]
  · refine Or.inr ⟨?_, escapeFrom_of_find hfind⟩
    rintro ⟨hpath, front, host, port, rfl, haddress, hport, hends⟩
    have hne : host.text ++ port ≠ [] := by
      intro hnil
      cases host with
      | plain name => exact haddress.1 (List.append_eq_nil_iff.mp hnil).1
      | bracketed address => cases hnil
    have hat := hnone front (host.text ++ port) (List.append_assoc _ _ _) hne
    rw [at?_behind front haddress hends hport hhead [] hbehind, if_pos hpath] at hat
    cases hat

/-! ### Structural colons of a segment -/

theorem length_escapeColons (s : Text) : (escapeColons s).length = s.length + s.count ':' := by
  induction s with
  | nil => rfl
  | cons c s ih =>
      have hcons : escapeColons (c :: s) =
          (if c = ':' then ['\\', ':'] else [c]) ++ escapeColons s := rfl
      rw [hcons, List.length_append, ih, List.count_cons]
      by_cases hc : c = ':'
      · simp [hc]
        omega
      · simp [hc]
        omega

theorem length_lt_escapeColons {s : Text} (h : ':' ∈ s) : s.length < (escapeColons s).length := by
  have hcount := List.count_pos_iff.mpr h
  rw [length_escapeColons]
  omega

theorem not_mem_bracket_of_isAddress {address : Text} (h : (HostMask.bracketed address).IsAddress) :
    '[' ∉ address :=
  fun hmem => absurd (h.2 _ hmem) (by decide)

/-- An address in brackets at the end of a text is the only one. -/
theorem bracketed_inj {front front' address address' : Text}
    (h : (HostMask.bracketed address).IsAddress) (h' : (HostMask.bracketed address').IsAddress)
    (heq : front ++ HostMask.text (.bracketed address) =
      front' ++ HostMask.text (.bracketed address')) : address = address' := by
  have hreverse := congrArg List.reverse heq
  simp only [HostMask.text, List.reverse_append, List.reverse_cons, List.reverse_nil,
    List.nil_append, List.append_assoc, List.cons_append, List.cons.injEq, true_and] at hreverse
  have hsame := Text.append_inj_of_not_mem (by simpa using not_mem_bracket_of_isAddress h)
    (by simpa using not_mem_bracket_of_isAddress h') (Or.inr rfl) (Or.inr rfl) hreverse
  exact List.reverse_inj.mp hsame.1

/-- Escaping leaves a segment that is taken as it is just if it has no structural colon. -/
theorem escaped_segment_eq_iff {front port : Text} {host : HostMask} (hhost : host.IsAddress)
    (hport : port = [] ∨ IsPort port) (hends : ¬ EndsInPort (front ++ host.text)) :
    front ++ escapedHost host ++ escapeColons port = front ++ host.text ++ port ↔
      ¬ HasStructuralColon (front ++ host.text ++ port) := by
  rcases hport with rfl | hport
  · have hnil : escapeColons [] = [] := rfl
    rw [hnil, List.append_nil, List.append_nil, List.append_cancel_left_eq]
    cases host with
    | plain name =>
        refine iff_of_true rfl ?_
        rintro (h | ⟨front', address, htext, -, -⟩)
        · exact hends h
        · -- The last character of a name is no bracket.
          have hlast := congrArg List.getLast? htext
          rw [HostMask.text, HostMask.text, ← List.append_assoc, List.getLast?_concat,
            List.getLast?_append, List.getLast?_eq_some_getLast hhost.1] at hlast
          have hchar := hhost.2.1 _ (List.getLast_mem hhost.1)
          rw [Option.some.inj hlast] at hchar
          exact absurd hchar (by decide)
    | bracketed address =>
        by_cases hcolon : ':' ∈ address
        · refine iff_of_false (fun heq => ?_)
            (not_not_intro (Or.inr ⟨front, address, rfl, hhost, hcolon⟩))
          have hlonger : _ < (escapedHost (.bracketed address)).length :=
            length_lt_escapeColons (by simp [HostMask.text, hcolon])
          rw [heq] at hlonger
          exact Nat.lt_irrefl _ hlonger
        · refine iff_of_true (escapeColons_eq_self (by simp [HostMask.text, hcolon])) ?_
          rintro (h | ⟨front', address', htext, haddress', hcolon'⟩)
          · exact hends h
          · rw [bracketed_inj hhost haddress' htext] at hcolon
            exact hcolon hcolon'
  · refine iff_of_false (fun heq => ?_)
      (not_not_intro (Or.inl ⟨front ++ host.text, port, rfl, hport⟩))
    obtain ⟨digits, rfl, -⟩ := hport
    have hlength := congrArg List.length heq
    simp only [List.length_append] at hlength
    have hhostLength := (colonsEscaped_escapedHost host).length_le
    have hlonger : _ < (escapeColons (':' :: digits)).length :=
      length_lt_escapeColons List.mem_cons_self
    omega

/-! ### Paths -/

/-- A path is caught or not by its first segment, if that is taken, and by the rest otherwise. -/
theorem isCaught_cons_iff {segment path : Text} (hslash : '/' ∉ segment)
    (hhead : path = [] ∨ path.head? = some '/') :
    IsCaught ('/' :: (segment ++ path)) ↔
      (isPath path = true ∧ IsTaken segment) ∧ HasStructuralColon segment ∨
        ¬ (isPath path = true ∧ IsTaken segment) ∧ IsCaught path := by
  constructor
  · intro h
    generalize htext : '/' :: (segment ++ path) = text at h
    cases h with
    | here hslash' hpath htaken hcolon =>
        obtain ⟨rfl, rfl⟩ := Text.append_inj_of_not_mem hslash hslash' hhead (head?_of_isPath hpath)
          (List.cons.inj htext).2
        exact Or.inl ⟨⟨hpath, htaken⟩, hcolon⟩
    | later hslash' hhead' hpassed hcaught =>
        obtain ⟨rfl, rfl⟩ := Text.append_inj_of_not_mem hslash hslash' hhead hhead'
          (List.cons.inj htext).2
        exact Or.inr ⟨hpassed, hcaught⟩
  · rintro (⟨⟨hpath, htaken⟩, hcolon⟩ | ⟨hpassed, hcaught⟩)
    · exact .here hslash hpath htaken hcolon
    · exact .later hslash hhead hpassed hcaught

theorem not_isCaught_nil : ¬ IsCaught [] := by
  intro h
  cases h

/-- A path is its first segment behind a slash, and the path behind that. -/
theorem exists_segment {path : Text} (h : path.head? = some '/') :
    ∃ segment rest, path = '/' :: (segment ++ rest) ∧ '/' ∉ segment ∧
      (rest = [] ∨ rest.head? = some '/') := by
  obtain ⟨text, rfl⟩ := List.head?_eq_some_iff.mp h
  refine ⟨text.takeWhile (· != '/'), text.dropWhile (· != '/'),
    by rw [List.takeWhile_append_dropWhile], fun hmem => ?_, ?_⟩
  · exact absurd (List.mem_takeWhile_imp hmem) (by decide)
  · cases hrest : text.dropWhile (· != '/') with
    | nil => exact Or.inl rfl
    | cons c rest =>
        have hstop := List.head?_dropWhile_not (· != '/') text
        rw [hrest] at hstop
        exact Or.inr (by simpa using hstop)

/-- Escaping from a path on leaves it alone just if it is not caught. -/
theorem escapeFrom_eq_self_iff {behind path : Text} (hhead : path = [] ∨ path.head? = some '/') :
    escapeFrom behind path = path ↔ ¬ IsCaught path := by
  -- Every segment makes the path shorter.
  induction hlength : path.length using Nat.strong_induction_on generalizing behind path with
  | _ n ih =>
  rcases hhead with rfl | hhead
  · exact iff_of_true rfl not_isCaught_nil
  · obtain ⟨segment, rest, rfl, hslash, hrest⟩ := exists_segment hhead
    have hshorter : rest.length < n := by
      rw [← hlength, List.length_cons, List.length_append]
      omega
    rw [isCaught_cons_iff hslash hrest, escapeFrom_slash, List.cons.injEq]
    rcases escapeFrom_segment hslash hrest ('/' :: behind) (Or.inr rfl) with
      ⟨htaken, front, host, port, rfl, haddress, hport, hends, heq⟩ | ⟨hpassed, heq⟩
    · rw [heq, List.append_cancel_right_eq, escaped_segment_eq_iff haddress hport hends]
      simp only [htaken, and_self, true_and, not_true_eq_false, false_and, or_false]
    · rw [heq, List.append_cancel_left_eq, ih _ hshorter hrest rfl]
      simp [hpassed]

/-! ### In front of a path -/

/-- The structure is found behind the scheme, or it is looked for from the beginning, without scheme. -/
theorem escape_cases (mask : Text) :
    (∃ scheme rest found, splitScheme? mask = some (scheme, rest) ∧
      at? scheme scheme.reverse rest = some found ∧ escape mask = found.escaped) ∨
    escape mask = escapeFrom [] mask := by
  unfold escape escapeFrom find?
  cases hsplit : splitScheme? mask with
  | none => exact Or.inr rfl
  | some cut =>
      obtain ⟨scheme, rest⟩ := cut
      dsimp only
      cases hat : at? scheme scheme.reverse rest with
      | none => exact Or.inr rfl
      | some found => exact Or.inl ⟨scheme, rest, found, rfl, hat, rfl⟩

namespace IsFront

variable {scheme authority path : Text}

theorem slash_not_mem (h : IsFront scheme authority path) : '/' ∉ authority := by
  have hslash : ¬ isSegmentChar '/' = true := by decide
  cases h with
  | none => exact List.not_mem_nil
  | slashes _ hchars => exact fun hmem => hslash (hchars _ hmem)
  | name _ _ hchars => exact fun hmem => hslash (hchars _ hmem)

theorem head?_path (h : IsFront scheme authority path) : path = [] ∨ path.head? = some '/' := by
  cases h with
  | none hhead => exact Or.inr hhead
  | slashes _ _ hhead => exact hhead
  | name _ _ _ hhead => exact hhead

theorem head?_reverse (h : IsFront scheme authority path) :
    scheme.reverse = [] ∨ scheme.reverse.head? = some '/' := by
  cases h with
  | none => exact Or.inl rfl
  | slashes => exact Or.inr rfl
  | name => exact Or.inr (by simp)

/-- No other scheme can be split off. -/
theorem eq_of_splitScheme? (h : IsFront scheme authority path) {scheme' rest : Text}
    (hsplit : splitScheme? (scheme ++ authority ++ path) = some (scheme', rest)) :
    scheme' = scheme ∧ rest = authority ++ path := by
  cases h with
  | none hhead hsingle =>
      obtain ⟨text, rfl⟩ := List.head?_eq_some_iff.mp hhead
      have htake : ('/' :: text).dropWhile isSegmentChar = '/' :: text :=
        List.dropWhile_cons_of_neg (by decide)
      have hpath : splitScheme? ('/' :: text) = some (scheme', rest) := hsplit
      unfold splitScheme? at hpath
      split at hpath
      · next heq => exact absurd ⟨_, heq.symm⟩ hsingle
      · next hnot =>
          dsimp only at hpath
          rw [htake] at hpath
          split at hpath
          · next heq => exact absurd heq (hnot _)
          · cases hpath
  | slashes =>
      cases hsplit
      exact ⟨rfl, rfl⟩
  | @name name _ _ hname =>
      by_cases hne : name = []
      · subst hne
        cases hsplit
      · rw [List.append_assoc, splitScheme?_name ⟨hne, hname⟩] at hsplit
        cases hsplit
        exact ⟨rfl, rfl⟩

/-- In a scheme nothing is recognised. -/
theorem escapeFrom_eq (h : IsFront scheme authority path) :
    escapeFrom [] (scheme ++ authority ++ path) =
      scheme ++ escapeFrom scheme.reverse (authority ++ path) := by
  cases h with
  | none => rfl
  | slashes =>
      have htext : "//".toList ++ authority ++ path = '/' :: '/' :: (authority ++ path) := rfl
      rw [htext, escapeFrom_slash, escapeFrom_slash]
      rfl
  | @name name _ _ hname =>
      have htext : name ++ "://".toList ++ authority ++ path =
          (name ++ [':']) ++ '/' :: '/' :: (authority ++ path) := by simp
      have hslash : '/' ∉ name ++ [':'] := by
        intro hmem
        rcases List.mem_append.mp hmem with hmem | hmem
        · exact absurd (hname _ hmem).1 (by decide)
        · exact absurd hmem (by decide)
      have hhead : ('/' :: '/' :: (authority ++ path)).head? = some '/' := rfl
      rcases escapeFrom_segment hslash (Or.inr hhead) [] (Or.inl rfl) with
        ⟨⟨hpath, -⟩, -⟩ | ⟨-, heq⟩
      · rw [isPath_slashes] at hpath
        cases hpath
      · rw [htext, heq, escapeFrom_slash, escapeFrom_slash]
        simp

end IsFront

/-- The colons of a path are left alone exactly if the authority in front of it is taken for the address
of the mask, or if the path is not caught. -/
theorem escape_keeps_path_iff {scheme authority path : Text} (h : IsFront scheme authority path) :
    (∃ front, ColonsEscaped (scheme ++ authority) front ∧
      escape (scheme ++ authority ++ path) = front ++ path) ↔
    (isPath path = true ∧ IsTaken authority) ∨ ¬ IsCaught path := by
  rcases escape_cases (scheme ++ authority ++ path) with
    ⟨scheme', rest, found, hsplit, hat, hescape⟩ | hescape
  · obtain ⟨rfl, rfl⟩ := h.eq_of_splitScheme? hsplit
    obtain ⟨hfound, hauthority, haddress, hport, -, hpath⟩ := of_at? h.slash_not_mem h.head?_path hat
    have htaken : IsTaken authority :=
      ⟨[], found.host, found.port, hauthority, haddress, hport, haddress.not_endsInPort⟩
    refine iff_of_true
      ⟨escapeFirstColon scheme' ++ (escapedHost found.host ++ escapeColons found.port), ?_, ?_⟩
      (Or.inl ⟨hpath, htaken⟩)
    · rw [hauthority]
      exact (colonsEscaped_escapeFirstColon _).append
        ((colonsEscaped_escapedHost _).append (colonsEscaped_escapeColons _))
    · rw [hescape, hfound]
      simp [escaped]
  · rw [hescape, h.escapeFrom_eq]
    rcases escapeFrom_segment h.slash_not_mem h.head?_path scheme.reverse h.head?_reverse with
      ⟨htaken, front, host, port, rfl, -, -, -, heq⟩ | ⟨hpassed, heq⟩
    · refine iff_of_true ⟨scheme ++ (front ++ escapedHost host ++ escapeColons port), ?_, ?_⟩
        (Or.inl htaken)
      · exact (ColonsEscaped.refl scheme).append (((ColonsEscaped.refl front).append
          (colonsEscaped_escapedHost _)).append (colonsEscaped_escapeColons _))
      · rw [heq, List.append_assoc scheme]
    · rw [heq, or_iff_right hpassed, ← escapeFrom_eq_self_iff h.head?_path]
      constructor
      · -- What stands in front of the path cannot have become longer.
        rintro ⟨front, hfront, htext⟩
        rw [← List.append_assoc] at htext
        have hbegins : scheme ++ authority <+: front := by
          refine List.prefix_of_prefix_length_le ⟨_, htext⟩ (List.prefix_append front path) ?_
          exact hfront.length_le
        rw [← (ColonsEscaped.refl _).eq_of_begins hfront hbegins] at htext
        exact List.append_cancel_left htext
      · intro hkept
        exact ⟨scheme ++ authority, .refl _, by rw [hkept, List.append_assoc]⟩

/-- A segment with a number behind its colon is caught alone or behind an empty segment, and is not
caught behind another segment. -/
theorem escape_keeps_path_port :
    (∃ front, ColonsEscaped [] front ∧ escape "/a/b:80".toList = front ++ "/a/b:80".toList) ∧
      (¬ ∃ front, ColonsEscaped [] front ∧
        escape "/item:80".toList = front ++ "/item:80".toList) ∧
      ¬ ∃ front, ColonsEscaped "http://host".toList front ∧
        escape "http://host//b:80".toList = front ++ "//b:80".toList := by
  have htaken : ∀ name, name ≠ [] → (∀ c ∈ name, isHostChar c = true) → ':' ∉ name →
      IsTaken (name ++ ":80".toList) ∧ HasStructuralColon (name ++ ":80".toList) := by
    intro name hne hchars hcolon
    have hport : IsPort ":80".toList := ⟨"80".toList, rfl, by decide, by decide, by decide⟩
    have hends := not_endsInPort hcolon
    exact ⟨⟨[], .plain name, _, rfl, ⟨hne, hchars, hends⟩, Or.inr hport, hends⟩,
      Or.inl ⟨name, _, rfl, hport⟩⟩
  have hnil : ¬ IsTaken [] := by
    rintro ⟨front, host, port, heq, haddress, -⟩
    have htext := (List.append_eq_nil_iff.mp (List.append_eq_nil_iff.mp heq.symm).1).2
    cases host with
    | plain name => exact haddress.1 htext
    | bracketed address => cases htext
  refine ⟨?_, ?_, ?_⟩
  · have hrooted : IsFront [] [] "/a/b:80".toList := .none rfl (by decide)
    refine (escape_keeps_path_iff hrooted).mpr (Or.inr fun h => ?_)
    have ha : IsTaken "a".toList :=
      ⟨[], .plain "a".toList, [], rfl, ⟨by decide, by decide, not_endsInPort (by decide)⟩, Or.inl rfl,
        not_endsInPort (by decide)⟩
    have hcons : IsCaught ('/' :: ("a".toList ++ "/b:80".toList)) := h
    rcases (isCaught_cons_iff (by decide) (Or.inr rfl)).mp hcons with ⟨-, hcolon⟩ | ⟨hpassed, -⟩
    · rcases hcolon with hport | ⟨front, address, htext, -, -⟩
      · exact not_endsInPort (by decide) hport
      · have hbracket : ']' ∈ "a".toList := htext ▸ by simp [HostMask.text]
        exact absurd hbracket (by decide)
    · exact hpassed ⟨by decide, ha⟩
  · have hrooted : IsFront [] [] "/item:80".toList := .none rfl (by decide)
    obtain ⟨hitem, hcolon⟩ := htaken "item".toList (by decide) (by decide) (by decide)
    have hcaught : IsCaught ('/' :: ("item:80".toList ++ [])) := .here (by decide) rfl hitem hcolon
    refine mt (escape_keeps_path_iff hrooted).mp ?_
    rintro (⟨-, hauthority⟩ | hfree)
    · exact hnil hauthority
    · exact hfree hcaught
  · have hfront : IsFront ("http".toList ++ "://".toList) "host".toList "//b:80".toList :=
      .name (by decide) (by decide) (by decide) (Or.inr rfl)
    obtain ⟨hb, hcolon⟩ := htaken "b".toList (by decide) (by decide) (by decide)
    have hlast : IsCaught ('/' :: ("b:80".toList ++ [])) := .here (by decide) rfl hb hcolon
    have hcaught : IsCaught ('/' :: ([] ++ "/b:80".toList)) :=
      .later (by decide) (Or.inr rfl) (fun h => hnil h.2) hlast
    refine mt (escape_keeps_path_iff hfront).mp ?_
    rintro (⟨hpath, -⟩ | hfree)
    · exact absurd hpath (by decide)
    · exact hfree hcaught

end RouteMask.Skeleton
