import Mathlib.Data.List.TakeWhile
import RouteMask.Proofs.Url.Site

/-! # The grammar of structure

A structure is put together from a scheme, a host, a port and a path.  A host without brackets that
ends in a port could not be told from one with a port behind it, so it is no address
(`HostMask.IsAddress`).  A port is found from both sides (`Skeleton.splitLastPort_append_port`,
`Skeleton.splitPort_append_path`), an address is recognised with the port and the path behind it
(`Skeleton.at?_append`), and the structure of the whole is found at its beginning
(`Skeleton.find?_of_isPath`). -/

namespace RouteMask

/-- A colon and one to five digits. -/
def IsPort (s : Text) : Prop :=
  ∃ digits, s = ':' :: digits ∧ 1 ≤ digits.length ∧ digits.length ≤ 5 ∧
    ∀ c ∈ digits, c.isDigit = true

/-- A text that a port can be cut off from. -/
def EndsInPort (s : Text) : Prop :=
  ∃ front port, s = front ++ port ∧ IsPort port

/-- A host that is recognised: hexadecimal digits and colons in brackets, or a text that does not end
in a port. -/
def HostMask.IsAddress : HostMask → Prop
  | bracketed address => address ≠ [] ∧ ∀ c ∈ address, Skeleton.isAddressChar c = true
  | plain text => text ≠ [] ∧ (∀ c ∈ text, Skeleton.isHostChar c = true) ∧ ¬ EndsInPort text

/-- The name of a scheme. -/
def IsSchemeName (s : Text) : Prop :=
  s ≠ [] ∧ ∀ c ∈ s, Skeleton.isSegmentChar c = true ∧ c ≠ ':'

/-- Nothing, two slashes, or a name with a colon and two slashes. -/
def IsScheme (s : Text) : Prop :=
  s = [] ∨ s = "//".toList ∨ ∃ name, IsSchemeName name ∧ s = name ++ "://".toList

/-- What has no colon does not end in a port. -/
theorem not_endsInPort {s : Text} (h : ':' ∉ s) : ¬ EndsInPort s := by
  rintro ⟨front, port, rfl, digits, rfl, -⟩
  exact h (List.mem_append_right front List.mem_cons_self)

theorem EndsInPort.append {s : Text} (front : Text) (h : EndsInPort s) : EndsInPort (front ++ s) := by
  obtain ⟨front', port, rfl, hport⟩ := h
  exact ⟨front ++ front', port, (List.append_assoc front front' port).symm, hport⟩

/-- A port ends in a digit. -/
theorem EndsInPort.exists_getLast? {s : Text} (h : EndsInPort s) :
    ∃ c, s.getLast? = some c ∧ c.isDigit = true := by
  obtain ⟨front, port, rfl, digits, rfl, hpos, -, hdigits⟩ := h
  have hne : digits ≠ [] := List.length_pos_iff.mp hpos
  refine ⟨digits.getLast hne, ?_, hdigits _ (List.getLast_mem hne)⟩
  rw [List.getLast?_append, List.getLast?_cons, List.getLast?_eq_some_getLast hne]
  rfl

theorem not_endsInPort_bracketed (front address : Text) :
    ¬ EndsInPort (front ++ HostMask.text (.bracketed address)) := by
  intro h
  obtain ⟨c, hlast, hdigit⟩ := h.exists_getLast?
  have hbracket : (front ++ HostMask.text (.bracketed address)).getLast? = some ']' := by
    rw [HostMask.text, ← List.append_assoc, List.getLast?_concat]
  rw [← Option.some.inj (hbracket.symm.trans hlast)] at hdigit
  exact absurd hdigit (by decide)

theorem HostMask.IsAddress.not_endsInPort {host : HostMask} (h : host.IsAddress) :
    ¬ EndsInPort host.text := by
  cases host with
  | plain text => exact h.2.2
  | bracketed address => exact not_endsInPort_bracketed [] address

namespace Skeleton

/-! ### Ports -/

theorem isPortLength_iff {n : Nat} : isPortLength n = true ↔ 1 ≤ n ∧ n ≤ 5 := by
  rw [isPortLength, Bool.and_eq_true, decide_eq_true_iff, decide_eq_true_iff]
  rfl

theorem isHostChar_of_mem_port {port : Text} (h : IsPort port) {c : Char} (hc : c ∈ port) :
    isHostChar c = true := by
  obtain ⟨digits, rfl, -, -, hdigits⟩ := h
  rcases List.mem_cons.mp hc with rfl | hc
  · decide
  · have := Text.isDigit_iff.mp (hdigits c hc)
    exact isHostChar_of_range (by omega) (by omega) (by omega)

/-- A port is found from behind. -/
theorem splitLastPort_append_port {port : Text} (h : IsPort port) (before : Text) :
    splitLastPort (port.reverse ++ before) = (port, before) := by
  obtain ⟨digits, rfl, hpos, hlen, hdigits⟩ := h
  have hreverse : ∀ c ∈ digits.reverse, c.isDigit = true :=
    fun c hc => hdigits c (List.mem_reverse.mp hc)
  have hcolon : ¬ (':').isDigit = true := by decide
  have htext : (':' :: digits).reverse ++ before = digits.reverse ++ ':' :: before := by simp
  have hlength : isPortLength digits.reverse.length = true := by
    rw [List.length_reverse]
    exact isPortLength_iff.mpr ⟨hpos, hlen⟩
  unfold splitLastPort
  rw [htext, List.takeWhile_append_of_pos hreverse, List.dropWhile_append_of_pos hreverse,
    List.takeWhile_cons_of_neg hcolon, List.dropWhile_cons_of_neg hcolon, List.append_nil]
  refine (if_pos hlength).trans ?_
  rw [List.reverse_reverse]

/-- What does not end in a port has none to be found, even behind a slash. -/
theorem splitLastPort_of_not_endsInPort {s behind : Text} (hs : ¬ EndsInPort s)
    (hbehind : behind = [] ∨ behind.head? = some '/') :
    splitLastPort (s.reverse ++ behind) = ([], s.reverse ++ behind) := by
  unfold splitLastPort
  dsimp only
  split
  · next before hbefore =>
      refine if_neg fun hlength => hs ?_
      have hdigits : ∀ c ∈ (s.reverse ++ behind).takeWhile Char.isDigit, c.isDigit = true :=
        fun c hc => List.mem_takeWhile_imp hc
      have htext := List.takeWhile_append_dropWhile (p := Char.isDigit) (l := s.reverse ++ behind)
      rw [hbefore] at htext
      generalize (s.reverse ++ behind).takeWhile Char.isDigit = digits at hlength hdigits htext
      -- The colon stands in the text itself: what is behind it begins with a slash.
      obtain ⟨rest, hrest⟩ : ∃ rest, s.reverse = digits ++ ':' :: rest := by
        have hcut : (digits ++ [':']) ++ before = s.reverse ++ behind := by simpa using htext
        rcases List.append_eq_append_iff.mp hcut with ⟨rest, hrest, -⟩ | ⟨more, hmore, hmark⟩
        · exact ⟨rest, by simpa using hrest⟩
        · cases more with
          | nil => exact ⟨[], by simpa using hmore.symm⟩
          | cons d more =>
              rw [hmark] at hbehind
              rcases hbehind with hnil | hslash
              · cases hnil
              · obtain rfl : d = '/' := Option.some.inj hslash
                have hmem : '/' ∈ digits ++ [':'] := by simp [hmore]
                rcases List.mem_append.mp hmem with hmem | hmem
                · exact absurd (hdigits _ hmem) (by decide)
                · exact absurd hmem (by decide)
      rw [isPortLength_iff, ← List.length_reverse] at hlength
      refine ⟨rest.reverse, ':' :: digits.reverse, ?_, digits.reverse, rfl, hlength.1, hlength.2,
        fun c hc => hdigits c (List.mem_reverse.mp hc)⟩
      rw [← List.reverse_reverse s, hrest]
      simp
  · rfl

/-- A port is found in front of a path. -/
theorem splitPort_append_path {port : Text} (h : port = [] ∨ IsPort port) {path : Text}
    (hpath : path = [] ∨ path.head? = some '/') : splitPort (port ++ path) = (port, path) := by
  rcases h with rfl | ⟨digits, rfl, hpos, hlen, hdigits⟩
  · rcases hpath with rfl | hpath
    · rfl
    · obtain ⟨rest, rfl⟩ := List.head?_eq_some_iff.mp hpath
      rfl
  · have hstop : path.takeWhile Char.isDigit = [] ∧ path.dropWhile Char.isDigit = path := by
      rcases hpath with rfl | hpath
      · exact ⟨rfl, rfl⟩
      · obtain ⟨rest, rfl⟩ := List.head?_eq_some_iff.mp hpath
        exact ⟨rfl, rfl⟩
    have hlength : isPortLength digits.length = true := isPortLength_iff.mpr ⟨hpos, hlen⟩
    rw [List.cons_append, splitPort, List.takeWhile_append_of_pos hdigits,
      List.dropWhile_append_of_pos hdigits, hstop.1, hstop.2, List.append_nil, if_pos hlength]

/-! ### Addresses -/

/-- A host in brackets is recognised, with the port and the path behind it. -/
theorem at?_bracketed {address port path : Text} (haddress : (HostMask.bracketed address).IsAddress)
    (hport : port = [] ∨ IsPort port) (hpath : path = [] ∨ path.head? = some '/')
    (scheme behind : Text) :
    at? scheme behind ('[' :: address ++ [']'] ++ port ++ path) =
      if isPath path then some ⟨scheme, .bracketed address, port, path⟩ else none := by
  obtain ⟨hne, hchars⟩ := haddress
  have htext : '[' :: address ++ [']'] ++ port ++ path =
      '[' :: (address ++ ']' :: (port ++ path)) := by simp
  have hclose : ¬ isAddressChar ']' = true := by decide
  have hbracketed : bracketedAt? scheme ('[' :: (address ++ ']' :: (port ++ path))) =
      if isPath path then some ⟨scheme, .bracketed address, port, path⟩ else none := by
    rw [bracketedAt?, List.takeWhile_append_of_pos hchars, List.dropWhile_append_of_pos hchars,
      List.takeWhile_cons_of_neg hclose, List.dropWhile_cons_of_neg hclose, List.append_nil]
    simp [splitPort_append_path hport hpath, hne]
  have hplain : plainAt? scheme behind ('[' :: (address ++ ']' :: (port ++ path))) = none := rfl
  rw [htext, at?, hbracketed, hplain, Option.or_none]

/-- A host without brackets is recognised, with the port and the path behind it.  What stands in front
of it in its segment belongs to the text that must not end in a port. -/
theorem at?_plain {front name port path : Text} (hne : name ≠ [])
    (hchars : ∀ c ∈ name, isHostChar c = true) (hends : ¬ EndsInPort (front ++ name))
    (hport : port = [] ∨ IsPort port) (hpath : path = [] ∨ path.head? = some '/')
    (scheme : Text) {behind : Text} (hbehind : behind = [] ∨ behind.head? = some '/') :
    at? scheme (front.reverse ++ behind) (name ++ port ++ path) =
      if isPath path then some ⟨scheme, .plain name, port, path⟩ else none := by
  have hauthority : ∀ c ∈ name ++ port, isHostChar c = true := by
    intro c hc
    rcases List.mem_append.mp hc with hc | hc
    · exact hchars c hc
    · rcases hport with rfl | hport
      · cases hc
      · exact isHostChar_of_mem_port hport hc
  have hstop : path.takeWhile isHostChar = [] ∧ path.dropWhile isHostChar = path := by
    rcases hpath with rfl | hpath
    · exact ⟨rfl, rfl⟩
    · obtain ⟨rest, rfl⟩ := List.head?_eq_some_iff.mp hpath
      exact ⟨rfl, rfl⟩
  have hbracketed : bracketedAt? scheme (name ++ port ++ path) = none := by
    obtain ⟨c, rest, hcons⟩ := List.exists_cons_of_ne_nil hne
    unfold bracketedAt?
    split
    · next inside hinside =>
        have hc := hchars c (hcons ▸ List.mem_cons_self)
        rw [hcons] at hinside
        rw [(List.cons.inj hinside).1] at hc
        exact absurd hc (by decide)
    · rfl
  have hcut : splitLastPort (name ++ port).reverse = (port, name.reverse) := by
    rcases hport with rfl | hport
    · simpa using splitLastPort_of_not_endsInPort (mt (EndsInPort.append front) hends) (Or.inl rfl)
    · rw [List.reverse_append]
      exact splitLastPort_append_port hport name.reverse
  have hlook : splitLastPort (name.reverse ++ (front.reverse ++ behind)) =
      ([], name.reverse ++ (front.reverse ++ behind)) := by
    simpa using splitLastPort_of_not_endsInPort hends hbehind
  have hhost : name.reverse.isEmpty = false := by simpa using hne
  rw [at?, hbracketed, Option.none_or, plainAt?, List.takeWhile_append_of_pos hauthority,
    List.dropWhile_append_of_pos hauthority, hstop.1, hstop.2, List.append_nil, hcut]
  dsimp only
  rw [hlook, hhost, List.reverse_reverse]
  rfl

/-- A host is recognised in its segment, with the port and the path behind it. -/
theorem at?_behind (front : Text) {host : HostMask} (hhost : host.IsAddress)
    (hends : ¬ EndsInPort (front ++ host.text)) {port path : Text} (hport : port = [] ∨ IsPort port)
    (hpath : path = [] ∨ path.head? = some '/') (scheme : Text) {behind : Text}
    (hbehind : behind = [] ∨ behind.head? = some '/') :
    at? scheme (front.reverse ++ behind) (host.text ++ port ++ path) =
      if isPath path then some ⟨scheme, host, port, path⟩ else none := by
  cases host with
  | plain name => exact at?_plain hhost.1 hhost.2.1 hends hport hpath scheme hbehind
  | bracketed address => exact at?_bracketed hhost hport hpath scheme _

/-- A host is recognised, with the port and the path behind it. -/
theorem at?_append {host : HostMask} (hhost : host.IsAddress) {port path : Text}
    (hport : port = [] ∨ IsPort port) (hpath : path = [] ∨ path.head? = some '/')
    (scheme : Text) {behind : Text} (hbehind : behind = [] ∨ behind.head? = some '/') :
    at? scheme behind (host.text ++ port ++ path) =
      if isPath path then some ⟨scheme, host, port, path⟩ else none :=
  at?_behind [] hhost hhost.not_endsInPort hport hpath scheme hbehind

/-! ### Schemes -/

theorem isSegmentChar_of_isHostChar {c : Char} (h : isHostChar c = true) :
    isSegmentChar c = true := by
  simp only [isHostChar, Bool.and_eq_true] at h
  rw [isSegmentChar, Bool.and_eq_true]
  exact ⟨h.1.1.1, h.2⟩

theorem splitScheme?_name {name : Text} (h : IsSchemeName name) (rest : Text) :
    splitScheme? (name ++ "://".toList ++ rest) = some (name ++ "://".toList, rest) := by
  obtain ⟨hne, hchars⟩ := h
  have hsegment : ∀ c ∈ name ++ [':'], isSegmentChar c = true := by
    intro c hc
    rcases List.mem_append.mp hc with hc | hc
    · exact (hchars c hc).1
    · obtain rfl := List.mem_singleton.mp hc
      decide
  have htext : name ++ "://".toList ++ rest = (name ++ [':']) ++ '/' :: '/' :: rest := by simp
  have hslash : ¬ isSegmentChar '/' = true := by decide
  have hpos := List.length_pos_iff.mpr hne
  unfold splitScheme?
  split
  · next rest' hrest =>
      obtain ⟨c, name, rfl⟩ := List.exists_cons_of_ne_nil hne
      have hc := (hchars c List.mem_cons_self).1
      rw [htext, List.cons_append, List.cons_append] at hrest
      rw [(List.cons.inj hrest).1] at hc
      exact absurd hc hslash
  · rw [htext, List.takeWhile_append_of_pos hsegment, List.dropWhile_append_of_pos hsegment,
      List.takeWhile_cons_of_neg hslash, List.dropWhile_cons_of_neg hslash, List.append_nil]
    have hname : (decide ((name ++ [':']).getLast? = some ':') &&
        decide (1 < (name ++ [':']).length)) = true := by
      simp [hpos]
    simp only [hname]
    simp

/-- Two slashes and what follows them are no path. -/
theorem isPath_slashes (s : Text) : isPath ('/' :: '/' :: s) = false := by
  have hsplit : Text.splitOn ['/'] ('/' :: s) = [] :: Text.splitOn ['/'] s := rfl
  rw [isPath, hsplit]
  rfl

theorem head?_of_isPath {path : Text} (h : isPath path = true) :
    path = [] ∨ path.head? = some '/' := by
  cases path with
  | nil => exact Or.inl rfl
  | cons c rest =>
      rw [isPath, Bool.and_eq_true, beq_iff_eq] at h
      exact Or.inr (congrArg some h.1)

theorem isHostChar_of_isAddressChar {c : Char} (h : isAddressChar c = true) :
    isHostChar c = true := by
  have hrange : 0x30 ≤ c.toNat ∧ c.toNat ≤ 0x3A ∨ 0x61 ≤ c.toNat ∧ c.toNat ≤ 0x66 := by
    simp only [isAddressChar, Bool.or_eq_true, Bool.and_eq_true, decide_eq_true_eq, beq_iff_eq,
      Text.isDigit_iff, Text.eq_iff_toNat, Char.le_def, UInt32.le_iff_toNat_le] at h
    have hbounds : 'a'.val.toNat = 0x61 ∧ 'f'.val.toNat = 0x66 ∧ ':'.toNat = 0x3A := by decide
    have hval : c.val.toNat = c.toNat := rfl
    omega
  exact isHostChar_of_range (by omega) (by omega) (by omega)

theorem isSegmentChar_of_mem_host {host : HostMask} (h : host.IsAddress) {c : Char}
    (hc : c ∈ host.text) : isSegmentChar c = true := by
  cases host with
  | plain name => exact isSegmentChar_of_isHostChar (h.2.1 c hc)
  | bracketed address =>
      simp only [HostMask.text, List.cons_append, List.mem_cons, List.mem_append, List.not_mem_nil,
        or_false] at hc
      rcases hc with rfl | hc | rfl
      · decide
      · exact isSegmentChar_of_isHostChar (isHostChar_of_isAddressChar (h.2 c hc))
      · decide

/-- In front of a path, an address alone has no scheme. -/
theorem splitScheme?_eq_none {host : HostMask} (hhost : host.IsAddress) {port path : Text}
    (hport : port = [] ∨ IsPort port) (hpath : isPath path = true) :
    splitScheme? (host.text ++ port ++ path) = none := by
  have hchars : ∀ c ∈ host.text ++ port, isSegmentChar c = true := by
    intro c hc
    rcases List.mem_append.mp hc with hc | hc
    · exact isSegmentChar_of_mem_host hhost hc
    · rcases hport with rfl | hport
      · cases hc
      · exact isSegmentChar_of_isHostChar (isHostChar_of_mem_port hport hc)
  have hne : host.text ++ port ≠ [] := by
    cases host with
    | plain name => simp [HostMask.text, hhost.1]
    | bracketed address => simp [HostMask.text]
  have hslash : ¬ isSegmentChar '/' = true := by decide
  unfold splitScheme?
  split
  · next rest hrest =>
      obtain ⟨c, authority, hcons⟩ := List.exists_cons_of_ne_nil hne
      have hc := hchars c (hcons ▸ List.mem_cons_self)
      rw [hcons] at hrest
      rw [(List.cons.inj hrest).1] at hc
      exact absurd hc hslash
  · rw [List.dropWhile_append_of_pos hchars]
    rcases head?_of_isPath hpath with rfl | hhead
    · rfl
    · obtain ⟨rest, rfl⟩ := List.head?_eq_some_iff.mp hhead
      rw [List.dropWhile_cons_of_neg hslash]
      dsimp only
      split
      · next rest' hrest =>
          rw [hrest, isPath_slashes] at hpath
          cases hpath
      · rfl

/-- The structure of a text with a scheme. -/
theorem find?_name {name : Text} (hname : IsSchemeName name) {host : HostMask}
    (hhost : host.IsAddress) {port path : Text} (hport : port = [] ∨ IsPort port)
    (hpath : path = [] ∨ path.head? = some '/') :
    find? (name ++ "://".toList ++ (host.text ++ port ++ path)) =
      if isPath path then some ([], ⟨name ++ "://".toList, host, port, path⟩)
      else findFrom? [] (name ++ "://".toList ++ (host.text ++ port ++ path)) := by
  have hbehind : (name ++ "://".toList).reverse.head? = some '/' := by simp
  unfold find?
  rw [splitScheme?_name hname]
  dsimp only
  rw [at?_append hhost hport hpath _ (Or.inr hbehind)]
  cases isPath path <;> rfl

/-- The structure of a text that is put together from its parts. -/
theorem find?_of_isPath {scheme : Text} (hscheme : IsScheme scheme) {host : HostMask}
    (hhost : host.IsAddress) {port path : Text} (hport : port = [] ∨ IsPort port)
    (hpath : isPath path = true) :
    find? (scheme ++ (host.text ++ port ++ path)) = some ([], ⟨scheme, host, port, path⟩) := by
  have hhead := head?_of_isPath hpath
  rcases hscheme with rfl | rfl | ⟨name, hname, rfl⟩
  · have hat := at?_append hhost hport hhead [] (Or.inl rfl)
    rw [if_pos hpath] at hat
    unfold find?
    rw [List.nil_append, splitScheme?_eq_none hhost hport hpath]
    dsimp only
    cases htext : host.text ++ port ++ path with
    | nil =>
        rw [htext] at hat
        cases hat
    | cons c rest =>
        rw [htext] at hat
        rw [findFrom?, hat]
  · have hsplit : splitScheme? ("//".toList ++ (host.text ++ port ++ path)) =
        some (['/', '/'], host.text ++ port ++ path) := rfl
    unfold find?
    rw [hsplit]
    dsimp only
    rw [at?_append hhost hport hhead _ (Or.inr rfl), if_pos hpath]
    rfl
  · rw [find?_name hname hhost hport hhead, if_pos hpath]

end Skeleton

end RouteMask
