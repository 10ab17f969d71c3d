import RouteMask.Proofs.Result
import RouteMask.Proofs.Text.Ascii
import RouteMask.Proofs.Text.Cut
import RouteMask.Url.Canonical

/-! # Reading what has been written

A text that is put together of a scheme, an authority and a rest is split into these again
(`Url.parse_written`), whatever host and port the authority holds.  A host in front of a port is read
back with or without brackets (`Url.hostAndPort_bracketed`, `Url.hostAndPort_plain`), and so is a port
that is written in decimal (`Url.port?_of_written`). -/

namespace RouteMask

namespace Url

/-! ### Schemes -/

/-- What can stand in front of the colon of a URL. -/
structure IsScheme (scheme : Text) : Prop where
  isAlpha_head : ∃ c ∈ scheme.head?, c.isAlpha = true
  isSchemeChar_of_mem : ∀ c ∈ scheme, isSchemeChar c = true

theorem IsScheme.ne_nil {scheme : Text} (h : IsScheme scheme) : scheme ≠ [] := by
  rintro rfl
  obtain ⟨c, hc, -⟩ := h.isAlpha_head
  cases hc

theorem range_of_isSchemeChar {c : Char} (h : isSchemeChar c = true) :
    0x2B ≤ c.toNat ∧ c.toNat ≤ 0x7A ∧ c ≠ ':' := by
  simp only [isSchemeChar, Bool.or_eq_true, beq_iff_eq, Text.isAlphanum_iff, Text.eq_iff_toNat,
    Char.reduceToNat] at h
  simp only [ne_eq, Text.eq_iff_toNat, Char.reduceToNat]
  omega

theorem IsScheme.colon_not_mem {scheme : Text} (h : IsScheme scheme) : ':' ∉ scheme :=
  fun hmem => (range_of_isSchemeChar (h.isSchemeChar_of_mem _ hmem)).2.2 rfl

theorem splitScheme?_written {scheme : Text} (h : IsScheme scheme) (rest : Text) :
    splitScheme? (scheme ++ ':' :: rest) = some (scheme.map Char.toLower, rest) := by
  obtain ⟨c, hhead, hc⟩ := h.isAlpha_head
  have hfirst : (scheme.head?.map Char.isAlpha).getD false = true := by rw [hhead]; exact hc
  unfold splitScheme?
  rw [Text.cut?_append_mark h.colon_not_mem]
  dsimp only
  rw [hfirst, List.all_eq_true.mpr h.isSchemeChar_of_mem]
  rfl

theorem map_toLower_eq_self {scheme : Text} (h : ∀ c ∈ scheme, c.toLower = c) :
    scheme.map Char.toLower = scheme :=
  (List.map_congr_left h).trans (List.map_id scheme)

/-- A scheme that is cut off can be written again, and is in lower case. -/
theorem isScheme_of_splitScheme? {s scheme rest : Text} (h : splitScheme? s = some (scheme, rest)) :
    IsScheme scheme ∧ ∀ c ∈ scheme, c.toLower = c := by
  have hrange : ∀ {c : Char}, isSchemeChar c = true →
      isSchemeChar c.toLower = true ∧ c.toLower.toLower = c.toLower := by
    intro c hc
    have hlower := Text.toNat_toLower (c := c)
    have hupper := Text.isUpper_iff (c := c)
    have hagain := Text.toNat_toLower (c := c.toLower)
    have hupper' := Text.isUpper_iff (c := c.toLower)
    simp only [isSchemeChar, Bool.or_eq_true, beq_iff_eq, Text.isAlphanum_iff, Text.eq_iff_toNat,
      Char.reduceToNat] at hc ⊢
    split at hlower
    · have := hupper.mp ‹_›
      rw [if_neg (by rw [hupper']; omega)] at hagain
      omega
    · have := mt hupper.mpr ‹_›
      rw [if_neg (by rw [hupper']; omega)] at hagain
      omega
  unfold splitScheme? at h
  split at h
  · split at h
    · next name _ _ hname =>
        obtain ⟨rfl, -⟩ := Prod.mk.inj (Option.some.inj h)
        obtain ⟨halpha, hchars⟩ := Bool.and_eq_true_iff.mp hname
        have hall := List.all_eq_true.mp hchars
        refine ⟨⟨?_, fun c hc => ?_⟩, fun c hc => ?_⟩
        · cases name with
          | nil => cases halpha
          | cons c name =>
              refine ⟨c.toLower, rfl, ?_⟩
              have hc : c.isAlpha = true := halpha
              have hlower := Text.toNat_toLower (c := c)
              have hupper := Text.isUpper_iff (c := c)
              rw [Text.isAlpha_iff] at hc ⊢
              split at hlower
              · have := hupper.mp ‹_›
                omega
              · omega
        · obtain ⟨d, hd, rfl⟩ := List.mem_map.mp hc
          exact (hrange (hall d hd)).1
        · obtain ⟨d, hd, rfl⟩ := List.mem_map.mp hc
          exact (hrange (hall d hd)).2
    · cases h
  · cases h

/-! ### Authorities -/

/-- No mark that ends an authority stands in the text, and no blank that is filtered out. -/
def IsAuthority (authority : Text) : Prop :=
  ∀ c ∈ authority, c ∉ "\t\r\n/?#".toList

instance (authority : Text) : Decidable (IsAuthority authority) :=
  inferInstanceAs (Decidable (∀ c ∈ authority, c ∉ "\t\r\n/?#".toList))

theorem IsAuthority.append {a b : Text} (ha : IsAuthority a) (hb : IsAuthority b) :
    IsAuthority (a ++ b) := by
  intro c hc
  rcases List.mem_append.mp hc with hc | hc
  · exact ha c hc
  · exact hb c hc

theorem endsAuthority_iff {c : Char} : endsAuthority c = true ↔ c = '/' ∨ c = '?' ∨ c = '#' := by
  simp [endsAuthority, or_assoc]

/-- A path ends the authority in front of it. -/
theorem endsAuthority_of_head? {path : Text} (h : path = [] ∨ path.head? = some '/') :
    ∀ c ∈ path.head?, endsAuthority c = true := by
  intro c hc
  rcases h with rfl | h
  · cases hc
  · rw [h] at hc
    rw [← Option.some.inj hc]
    rfl

theorem splitAuthority_written {authority rest : Text} (hauthority : IsAuthority authority)
    (hrest : ∀ c ∈ rest.head?, endsAuthority c = true) :
    splitAuthority ('/' :: '/' :: authority ++ rest) = (authority, rest) := by
  have hends : ∀ c ∈ authority, (!endsAuthority c) = true := by
    intro c hc
    have hmarks : ∀ d : Char, endsAuthority d = true → d ∈ "\t\r\n/?#".toList := by
      intro d hd
      rcases endsAuthority_iff.mp hd with rfl | rfl | rfl <;> decide
    rw [Bool.not_eq_true', Bool.eq_false_iff]
    exact fun hc' => hauthority c hc (hmarks c hc')
  have hstop : rest.takeWhile (!endsAuthority ·) = [] ∧ rest.dropWhile (!endsAuthority ·) = rest := by
    cases rest with
    | nil => exact ⟨rfl, rfl⟩
    | cons c rest => simp [hrest c rfl]
  rw [List.cons_append, List.cons_append, splitAuthority, List.takeWhile_append_of_pos hends,
    List.dropWhile_append_of_pos hends, hstop.1, hstop.2, List.append_nil]

/-- The checks of an authority. -/
def checkAuthority (authority : Text) : Except UrlError Unit := do
  checkBrackets authority
  checkHidden authority

theorem tidy_written {scheme authority : Text} (hscheme : IsScheme scheme)
    (hauthority : IsAuthority authority) (rest : Text) :
    tidy (scheme ++ "://".toList ++ authority ++ rest) =
      scheme ++ "://".toList ++ authority ++
        rest.filter fun c => c != '\t' && c != '\r' && c != '\n' := by
  have hkept : ∀ c ∈ scheme ++ "://".toList ++ authority,
      (c != '\t' && c != '\r' && c != '\n') = true := by
    intro c hc
    have hnot : c ∉ "\t\r\n".toList := by
      intro hblank
      rcases List.mem_append.mp hc with hc | hc
      · rcases List.mem_append.mp hc with hc | hc
        · have hmarks : ∀ d ∈ "\t\r\n".toList, d.toNat < 0x2B := by decide
          have := range_of_isSchemeChar (hscheme.isSchemeChar_of_mem c hc)
          have := hmarks c hblank
          omega
        · have hmarks : ∀ d ∈ "\t\r\n".toList, d ∉ "://".toList := by decide
          exact hmarks c hblank hc
      · have hmarks : ∀ d ∈ "\t\r\n".toList, d ∈ "\t\r\n/?#".toList := by decide
        exact hauthority c hc (hmarks c hblank)
    simpa [and_assoc] using hnot
  obtain ⟨c, hhead, hc⟩ := hscheme.isAlpha_head
  obtain ⟨name, rfl⟩ := List.head?_eq_some_iff.mp hhead
  have hletter : ¬ c.toNat ≤ 0x20 := by
    have := Text.isAlpha_iff.mp hc
    omega
  have hdrop : (c :: name ++ "://".toList ++ authority ++ rest).dropWhile (fun c => c.toNat ≤ 0x20) =
      c :: name ++ "://".toList ++ authority ++ rest :=
    List.dropWhile_cons_of_neg (by simpa using hletter)
  rw [tidy, hdrop, List.filter_append, List.filter_eq_self.mpr hkept]

theorem splitMark_part {mark : Char} {s : Text} (h : mark ∉ s) (t : Option Text) :
    splitMark mark (s ++ Text.part mark t) = (s, t.getD []) := by
  unfold splitMark
  cases t with
  | none =>
      rw [Text.part, List.append_nil, Text.cut?_of_not_mem h]
      rfl
  | some t =>
      rw [Text.part, Text.cut?_append_mark h]
      rfl

/-- A scheme, an authority and a rest are read as such. -/
theorem parse_written (default : Text) {scheme authority rest : Text} (hscheme : IsScheme scheme)
    (hauthority : IsAuthority authority) (hrest : ∀ c ∈ rest.head?, endsAuthority c = true) :
    let clean := rest.filter fun c => c != '\t' && c != '\r' && c != '\n'
    parse default (scheme ++ "://".toList ++ authority ++ rest) =
      (checkAuthority authority).map fun _ =>
        ⟨scheme.map Char.toLower, authority, (splitMark '?' (splitMark '#' clean).1).1,
          (splitMark '?' (splitMark '#' clean).1).2, (splitMark '#' clean).2⟩ := by
  intro clean
  have hclean : ∀ c ∈ clean.head?, endsAuthority c = true := by
    cases rest with
    | nil => exact fun c hc => nomatch hc
    | cons d rest =>
        have hd := hrest d rfl
        have hfirst : clean.head? = some d := by
          rcases endsAuthority_iff.mp hd with rfl | rfl | rfl <;> rfl
        intro c hc
        rw [hfirst] at hc
        rw [← Option.some.inj hc]
        exact hd
  have htext : scheme ++ "://".toList ++ authority ++ clean =
      scheme ++ ':' :: ('/' :: '/' :: authority ++ clean) := by simp
  unfold parse checkAuthority
  rw [tidy_written hscheme hauthority, htext]
  dsimp only
  rw [splitScheme?_written hscheme]
  dsimp only [Option.getD_some]
  rw [splitAuthority_written hauthority hclean]
  dsimp only [bind, Except.bind]
  cases checkBrackets authority with
  | error e => rfl
  | ok _ =>
      dsimp only
      cases checkHidden authority <;> rfl

/-- A path that has no marks and no blanks that are filtered out is read as it is. -/
theorem parse_written_path (default : Text) {scheme authority path : Text} (hscheme : IsScheme scheme)
    (hauthority : IsAuthority authority) (hhead : path = [] ∨ path.head? = some '/')
    (hpath : ∀ c ∈ path, c ∉ "\t\r\n?#".toList) :
    parse default (scheme ++ "://".toList ++ authority ++ path) =
      (checkAuthority authority).map fun _ => ⟨scheme.map Char.toLower, authority, path, [], []⟩ := by
  have hclean : path.filter (fun c => c != '\t' && c != '\r' && c != '\n') = path := by
    have hmarks : ∀ d ∈ "\t\r\n".toList, d ∈ "\t\r\n?#".toList := by decide
    refine List.filter_eq_self.mpr fun c hc => ?_
    have hnot : c ∉ "\t\r\n".toList := fun hmem => hpath c hc (hmarks c hmem)
    simpa [and_assoc] using hnot
  have hsplit : ∀ mark ∈ "?#".toList, splitMark mark path = (path, []) := by
    intro mark hmark
    have hmarks : ∀ d ∈ "?#".toList, d ∈ "\t\r\n?#".toList := by decide
    have hnone := splitMark_part (fun hmem => hpath mark hmem (hmarks mark hmark)) none
    rwa [Text.part, List.append_nil] at hnone
  rw [parse_written default hscheme hauthority (endsAuthority_of_head? hhead), hclean]
  simp only [hsplit '#' (by decide), hsplit '?' (by decide)]

/-! ### Host and port -/

theorem withoutUser_eq_self {place : Text} (h : '@' ∉ place) : withoutUser place = place := by
  have hall := Text.bne_of_not_mem (mt List.mem_reverse.mp h)
  unfold withoutUser
  rw [← List.append_nil place.reverse, List.takeWhile_append_of_pos hall]
  simp

/-- The host and the port do not depend on the user. -/
theorem hostAndPort_user (user : Text) {place : Text} (h : '@' ∉ place) :
    hostAndPort (user ++ '@' :: place) = hostAndPort place := by
  have hall := Text.bne_of_not_mem (mt List.mem_reverse.mp h)
  have hplace : withoutUser (user ++ '@' :: place) = withoutUser place := by
    rw [withoutUser_eq_self h, withoutUser, List.reverse_append, List.reverse_cons, List.append_assoc,
      List.takeWhile_append_of_pos hall]
    simp
  unfold hostAndPort
  rw [hplace]

theorem hostAndPort_plain {host : Text} {port : Option Text}
    (h : '@' ∉ host ++ Text.part ':' port) (hopen : '[' ∉ host ++ Text.part ':' port)
    (hcolon : ':' ∉ host) : hostAndPort (host ++ Text.part ':' port) = (host, port.getD []) := by
  unfold hostAndPort
  dsimp only
  rw [withoutUser_eq_self h, Text.cut?_of_not_mem hopen]
  exact splitMark_part hcolon port

theorem hostAndPort_bracketed {address : Text} {port : Option Text}
    (h : '@' ∉ '[' :: address ++ ']' :: Text.part ':' port) (hclose : ']' ∉ address) :
    hostAndPort ('[' :: address ++ ']' :: Text.part ':' port) = (address, port.getD []) := by
  have hcut : Text.cut? (· == '[') ('[' :: address ++ ']' :: Text.part ':' port) =
      some ([], address ++ ']' :: Text.part ':' port) := rfl
  have hinside : splitMark ']' (address ++ Text.part ']' (some (Text.part ':' port))) =
      (address, Text.part ':' port) := splitMark_part hclose _
  have hport : splitMark ':' ([] ++ Text.part ':' port) = ([], port.getD []) :=
    splitMark_part List.not_mem_nil port
  unfold hostAndPort
  dsimp only
  rw [withoutUser_eq_self h, hcut]
  dsimp only
  rw [Text.part] at hinside
  rw [hinside]
  dsimp only
  rw [← List.nil_append (Text.part ':' port), hport]

/-- A port that is written in decimal is read back. -/
theorem port?_of_written {u : Url} {port : Option Nat}
    (h : (hostAndPort u.authority).2 = (port.map fun n => (toString n).toList).getD [])
    (hle : ∀ n ∈ port, n ≤ 65535) : u.port? = .ok port := by
  unfold port?
  rw [h]
  cases port with
  | none => rfl
  | some n =>
      have hn := hle n rfl
      have hdigits : (toString n).toList.all Char.isDigit = true :=
        List.all_eq_true.mpr fun c hc => Text.isDigit_of_mem_toString hc
      have hlength := Text.length_toString_le hn
      have hempty := List.isEmpty_eq_false_iff.mpr (Text.toString_ne_nil n)
      dsimp only [Option.map_some, Option.getD_some]
      rw [hempty, hdigits, Text.decimalValue_toString, if_neg Bool.false_ne_true, if_neg (by simp),
        if_neg (by unfold maxPortDigits; omega), if_neg (by omega)]

end Url

end RouteMask
