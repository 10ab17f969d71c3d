import Mathlib.Data.List.Infix
import RouteMask.Proofs.Url.Reserved

/-! # Escapes that decoding keeps

A text is cut at the escapes of the bytes in `keep`, wherever one stands in it (`Percent.stretches`).
Decoding leaves these escapes as they are written, and it decodes each stretch between them by itself
(`Percent.flatMap_decoded_stretches`): the run of bytes in front of an escape that is kept ends there.

* `Percent.decodeUnreserved_keeps_reserved`: reserved characters and their escapes stay what they are.
* `Percent.stretches_encode_resolvable`: what is encoded for resolving is never cut, and comes back. -/

namespace RouteMask.Percent

/-! ### Escapes in a text -/

/-- A percent sign and the two digits of a byte in `keep`. -/
inductive IsEscape (keep : Nat → Bool) : Text → Prop
  | mk {h l : Char} {m n : Nat} (high : Text.hexValue? h = some m) (low : Text.hexValue? l = some n)
      (kept : keep (m * 16 + n) = true) : IsEscape keep ['%', h, l]

/-- The escape of a byte in `keep` that a text begins with, as it is written. -/
def escapeAt? (keep : Nat → Bool) : Text → Option Text
  | '%' :: h :: l :: _ =>
    match Text.hexValue? h, Text.hexValue? l with
    | some m, some n => if keep (m * 16 + n) then some ['%', h, l] else none
    | _, _ => none
  | _ => none

/-- All escapes of bytes in `keep` that stand in a text, from left to right. -/
def escapes (keep : Nat → Bool) (s : Text) : List Text :=
  s.tails.filterMap (escapeAt? keep)

variable {keep : Nat → Bool}

theorem escapeAt?_of_ne {c : Char} (h : c ≠ '%') (s : Text) : escapeAt? keep (c :: s) = none := by
  unfold escapeAt?
  split
  · next heq => exact absurd (List.cons.inj heq).1 h
  · rfl

theorem escapeAt?_append {e : Text} (he : IsEscape keep e) (s : Text) :
    escapeAt? keep (e ++ s) = some e := by
  obtain ⟨high, low, kept⟩ := he
  simp [escapeAt?, high, low, kept]

theorem exists_of_escapeAt? {s e : Text} (h : escapeAt? keep s = some e) :
    IsEscape keep e ∧ ∃ rest, s = e ++ rest := by
  unfold escapeAt? at h
  split at h
  · next x y rest =>
      split at h
      · next m n high low =>
          split at h
          · next kept =>
              obtain rfl := Option.some.inj h
              exact ⟨⟨high, low, kept⟩, rest, rfl⟩
          · cases h
      · cases h
  · cases h

/-- An escape does not reach over the percent sign of another one. -/
theorem escapeAt?_append_percent (c : Char) (s t : Text) :
    escapeAt? keep (c :: s ++ '%' :: t) = escapeAt? keep (c :: s) := by
  have hpercent : Text.hexValue? '%' = none := by decide
  by_cases hc : c = '%'
  · subst hc
    rcases s with _ | ⟨x, _ | ⟨y, s⟩⟩
    · cases t <;> simp [escapeAt?, hpercent]
    · cases hx : Text.hexValue? x <;> simp [escapeAt?, hpercent, hx]
    · rfl
  · rw [List.cons_append, escapeAt?_of_ne hc, escapeAt?_of_ne hc]

@[simp] theorem escapes_nil : escapes keep [] = [] := rfl

theorem escapes_cons (c : Char) (s : Text) :
    escapes keep (c :: s) = (escapeAt? keep (c :: s)).toList ++ escapes keep s := by
  rw [escapes, List.tails_cons, List.filterMap_cons]
  cases escapeAt? keep (c :: s) <;> rfl

theorem escapes_cons_of_ne {c : Char} (h : c ≠ '%') (s : Text) :
    escapes keep (c :: s) = escapes keep s := by
  rw [escapes_cons, escapeAt?_of_ne h, Option.toList_none, List.nil_append]

theorem escapes_cons_eq_nil_iff {c : Char} {s : Text} :
    escapes keep (c :: s) = [] ↔ escapeAt? keep (c :: s) = none ∧ escapes keep s = [] := by
  rw [escapes_cons, List.append_eq_nil_iff]
  cases escapeAt? keep (c :: s) <;> simp

theorem ne_percent_of_hexValue? {c : Char} {n : Nat} (h : Text.hexValue? c = some n) : c ≠ '%' := by
  rintro rfl
  have hpercent : Text.hexValue? '%' = none := by decide
  rw [hpercent] at h
  cases h

theorem escapes_append_percent (s t : Text) :
    escapes keep (s ++ '%' :: t) = escapes keep s ++ escapes keep ('%' :: t) := by
  induction s with
  | nil => rfl
  | cons c s ih =>
      have hfirst : escapeAt? keep (c :: (s ++ '%' :: t)) = escapeAt? keep (c :: s) :=
        escapeAt?_append_percent c s t
      rw [List.cons_append, escapes_cons, hfirst, ih, escapes_cons c s, List.append_assoc]

/-- The digits of an escape begin no escape. -/
theorem escapes_append {e : Text} (he : IsEscape keep e) (s t : Text) :
    escapes keep (s ++ (e ++ t)) = escapes keep s ++ e :: escapes keep t := by
  have hfirst := escapeAt?_append he t
  obtain ⟨high, low, -⟩ := he
  simp only [List.cons_append, List.nil_append] at hfirst ⊢
  rw [escapes_append_percent, escapes_cons '%', hfirst,
    escapes_cons_of_ne (ne_percent_of_hexValue? high),
    escapes_cons_of_ne (ne_percent_of_hexValue? low)]
  rfl

/-- Every text is free of escapes, or there is a first one in it. -/
theorem escapes_eq_nil_or_exists (keep : Nat → Bool) (s : Text) :
    escapes keep s = [] ∨
      ∃ a e b, s = a ++ (e ++ b) ∧ escapes keep a = [] ∧ IsEscape keep e := by
  induction s with
  | nil => exact .inl rfl
  | cons c s ih =>
      cases hfirst : escapeAt? keep (c :: s) with
      | some e =>
          obtain ⟨he, b, hs⟩ := exists_of_escapeAt? hfirst
          exact .inr ⟨[], e, b, hs, rfl, he⟩
      | none =>
          rcases ih with hfree | ⟨a, e, b, rfl, ha, he⟩
          · exact .inl (escapes_cons_eq_nil_iff.mpr ⟨hfirst, hfree⟩)
          · refine .inr ⟨c :: a, e, b, rfl, escapes_cons_eq_nil_iff.mpr ⟨?_, ha⟩, he⟩
            obtain ⟨-, -, -⟩ := he
            exact (escapeAt?_append_percent c a _).symm.trans hfirst

/-- A text is free of escapes, or what stands behind its first one has been dealt with before. -/
theorem cut_induction (keep : Nat → Bool) {P : Text → Prop} (free : ∀ a, escapes keep a = [] → P a)
    (cut : ∀ a e b, escapes keep a = [] → IsEscape keep e → P b → P (a ++ (e ++ b))) (s : Text) :
    P s := by
  induction hlen : s.length using Nat.strongRecOn generalizing s with
  | ind n ih =>
      rcases escapes_eq_nil_or_exists keep s with hs | ⟨a, e, b, rfl, ha, he⟩
      · exact free s hs
      · refine cut a e b ha he (ih b.length ?_ b rfl)
        obtain ⟨-, -, -⟩ := he
        rw [← hlen, List.length_append, List.length_append, List.length_cons]
        omega

/-! ### Cutting at escapes -/

/-- A stretch of a text: an escape that is kept, or what stands between two of them. -/
inductive Stretch where
  | free (text : Text)
  | kept (escape : Text)
deriving DecidableEq

namespace Stretch

/-- The stretch as it is written. -/
def text : Stretch → Text
  | free t => t
  | kept e => e

/-- The stretch as it is decoded: an escape that is kept is not. -/
def decoded : Stretch → Text
  | free t => decode t
  | kept e => e

/-- The escape that is kept. -/
def escape? : Stretch → Option Text
  | free _ => none
  | kept e => some e

end Stretch

/-- Put a character in front of the first stretch. -/
def consFree (c : Char) : List Stretch → List Stretch
  | .free t :: rest => .free (c :: t) :: rest
  | rest => .free [c] :: rest

/-- The stretches of a text whose first `skip` characters belong to an escape already found. -/
def stretchesFrom (keep : Nat → Bool) : Nat → Text → List Stretch
  | _, [] => [.free []]
  | skip + 1, _ :: rest => stretchesFrom keep skip rest
  | 0, c :: rest =>
    match escapeAt? keep (c :: rest) with
    | some e => .free [] :: .kept e :: stretchesFrom keep (e.length - 1) rest
    | none => consFree c (stretchesFrom keep 0 rest)

/-- A text cut at the escapes of the bytes in `keep`. -/
def stretches (keep : Nat → Bool) (s : Text) : List Stretch :=
  stretchesFrom keep 0 s

theorem stretches_cons {c : Char} {s : Text} (h : escapeAt? keep (c :: s) = none) :
    stretches keep (c :: s) = consFree c (stretches keep s) := by
  rw [stretches, stretchesFrom, h]
  rfl

theorem stretches_escape {e : Text} (he : IsEscape keep e) (s : Text) :
    stretches keep (e ++ s) = .free [] :: .kept e :: stretches keep s := by
  have hfirst := escapeAt?_append he s
  obtain ⟨-, -, -⟩ := he
  simp only [List.cons_append, List.nil_append] at hfirst ⊢
  rw [stretches, stretchesFrom, hfirst]
  rfl

theorem stretches_of_escapes_eq_nil {s : Text} (h : escapes keep s = []) :
    stretches keep s = [.free s] := by
  induction s with
  | nil => rfl
  | cons c s ih =>
      obtain ⟨hfirst, hrest⟩ := escapes_cons_eq_nil_iff.mp h
      rw [stretches_cons hfirst, ih hrest]
      rfl

/-- A text is cut at its first escape. -/
theorem stretches_append {a e : Text} (ha : escapes keep a = []) (he : IsEscape keep e) (b : Text) :
    stretches keep (a ++ (e ++ b)) = .free a :: .kept e :: stretches keep b := by
  induction a with
  | nil => exact stretches_escape he b
  | cons c a ih =>
      obtain ⟨hfirst, hrest⟩ := escapes_cons_eq_nil_iff.mp ha
      have hnone : escapeAt? keep (c :: (a ++ (e ++ b))) = none := by
        obtain ⟨-, -, -⟩ := he
        exact (escapeAt?_append_percent c a _).trans hfirst
      rw [List.cons_append, stretches_cons hnone, ih hrest]
      rfl

/-- No character is lost. -/
theorem flatMap_text_stretches (keep : Nat → Bool) (s : Text) :
    (stretches keep s).flatMap Stretch.text = s := by
  induction s using cut_induction keep with
  | free a ha => simp [stretches_of_escapes_eq_nil ha, Stretch.text]
  | cut a e b ha he ih => simp [stretches_append ha he, Stretch.text, ih]

/-- A text is cut at each of its escapes. -/
theorem filterMap_escape?_stretches (keep : Nat → Bool) (s : Text) :
    (stretches keep s).filterMap Stretch.escape? = escapes keep s := by
  induction s using cut_induction keep with
  | free a ha =>
      rw [stretches_of_escapes_eq_nil ha, ha]
      rfl
  | cut a e b ha he ih =>
      rw [stretches_append ha he, escapes_append he, ha, ← ih]
      rfl

/-! ### Decoding stretch by stretch -/

theorem octets_append_escape {e : Text} (he : IsEscape keep e) (s t : Text) :
    octets keep (s ++ (e ++ t)) = octets keep s ++ (e.map .verbatim ++ octets keep t) := by
  obtain ⟨high, low, kept⟩ := he
  simp only [List.cons_append, List.nil_append]
  rw [octets_append_cons (by decide)]
  simp [octets, high, low, kept]

/-- What stands around an escape that is kept is decoded by itself. -/
theorem decodeExcept_append_escape {e : Text} (he : IsEscape keep e) (s t : Text) :
    decodeExcept keep (s ++ (e ++ t)) = decodeExcept keep s ++ (e ++ decodeExcept keep t) := by
  unfold decodeExcept
  rw [octets_append_escape he]
  obtain ⟨-, -, -⟩ := he
  exact decodeFrom_append_cons (fun _ => rfl) (by simp) (octets keep s)

theorem octets_of_escapes_eq_nil {s : Text} (h : escapes keep s = []) :
    octets keep s = octets (fun _ => false) s := by
  fun_induction octets keep s with
  | case1 x y rest m n low high kept ih =>
      have hfirst := (escapes_cons_eq_nil_iff.mp h).1
      simp [escapeAt?, high, low, kept] at hfirst
  | case2 x y rest m n low high kept ih =>
      have hdigits := (escapes_cons_eq_nil_iff.mp h).2
      have hrest := (escapes_cons_eq_nil_iff.mp (escapes_cons_eq_nil_iff.mp hdigits).2).2
      simp [octets, high, low, ih hrest]
  | case3 x y rest hnot ih =>
      rw [octets_percent_of_not hnot, ih (escapes_cons_eq_nil_iff.mp h).2]
  | case4 c rest hnot ih =>
      have hdigits : ∀ a b u, c = '%' → rest = a :: b :: u →
          Text.hexValue? a = none ∨ Text.hexValue? b = none :=
        fun a b u hc hrest => (hnot a b u hc hrest).elim
      rw [octets_cons_of_not hdigits, ih (escapes_cons_eq_nil_iff.mp h).2]
  | case5 => rfl

/-- Where no escape is kept, all are decoded. -/
theorem decodeExcept_of_escapes_eq_nil {s : Text} (h : escapes keep s = []) :
    decodeExcept keep s = decode s :=
  congrArg (decodeFrom none) (octets_of_escapes_eq_nil h)

/-- Decoding leaves the escapes that are kept alone, and decodes each stretch between them by itself. -/
theorem flatMap_decoded_stretches (keep : Nat → Bool) (s : Text) :
    (stretches keep s).flatMap Stretch.decoded = decodeExcept keep s := by
  induction s using cut_induction keep with
  | free a ha =>
      simp [stretches_of_escapes_eq_nil ha, Stretch.decoded, decodeExcept_of_escapes_eq_nil ha]
  | cut a e b ha he ih =>
      simp [stretches_append ha he, Stretch.decoded, decodeExcept_append_escape he,
        decodeExcept_of_escapes_eq_nil ha, ih]

/-- Where no escape of a reserved character stands, decoding makes no reserved character. -/
theorem filter_decode {s : Text} (h : escapes reserved s = []) :
    (decode s).filter (reserved ·.toNat) = s.filter (reserved ·.toNat) := by
  rw [← decodeExcept_of_escapes_eq_nil h]
  exact filter_decodeUnreserved s

/-- Each stretch keeps its own reserved characters. -/
theorem map_filter_decoded_stretches (s : Text) :
    (stretches reserved s).map (fun stretch => stretch.decoded.filter (reserved ·.toNat)) =
      (stretches reserved s).map fun stretch => stretch.text.filter (reserved ·.toNat) := by
  induction s using cut_induction reserved with
  | free a ha =>
      rw [stretches_of_escapes_eq_nil ha]
      exact congrArg ([·]) (filter_decode ha)
  | cut a e b ha he ih =>
      rw [stretches_append ha he, List.map_cons, List.map_cons, ih]
      exact congrArg (· :: _) (filter_decode ha)

/-- The reserved characters of a text stay as they are, and so does each escape of one, wherever it
stands: the text is cut at all of them, and only what stands between two of them is decoded. -/
theorem decodeUnreserved_keeps_reserved (s : Text) :
    (decodeUnreserved s).filter (reserved ·.toNat) = s.filter (reserved ·.toNat) ∧
      (stretches reserved s).flatMap Stretch.text = s ∧
      (stretches reserved s).flatMap Stretch.decoded = decodeUnreserved s ∧
      (stretches reserved s).filterMap Stretch.escape? = escapes reserved s ∧
      (stretches reserved s).map (fun stretch => stretch.decoded.filter (reserved ·.toNat)) =
        (stretches reserved s).map fun stretch => stretch.text.filter (reserved ·.toNat) :=
  ⟨filter_decodeUnreserved s, flatMap_text_stretches reserved s, flatMap_decoded_stretches reserved s,
    filterMap_escape?_stretches reserved s, map_filter_decoded_stretches s⟩

/-- A small letter stays small, an escaped escape is decoded once, and a byte is not read together with
one behind an escape that is kept. -/
example : decodeUnreserved "a%2fb%252F%C3%3A%A9".toList = "a%2fb%2F\uFFFD%3A\uFFFD".toList := by
  decide

/-! ### What is encoded -/

theorem escapes_flatMap_escapeByte {bytes : List Nat} (h : ∀ b ∈ bytes, b < 256 ∧ keep b = false)
    (rest : Text) : escapes keep (bytes.flatMap escapeByte ++ rest) = escapes keep rest := by
  induction bytes with
  | nil => rfl
  | cons b bytes ih =>
      obtain ⟨hlt, hkeep⟩ := h b List.mem_cons_self
      have hvalue : b / 16 * 16 + b % 16 = b := by omega
      have high := Text.hexValue?_upperHexDigit (n := b / 16) (by omega)
      have low := Text.hexValue?_upperHexDigit (n := b % 16) (by omega)
      rw [List.flatMap_cons, List.append_assoc, escapeByte, List.cons_append, List.cons_append,
        List.cons_append, List.nil_append, escapes_cons, escapes_cons_of_ne (ne_percent_of_hexValue? high),
        escapes_cons_of_ne (ne_percent_of_hexValue? low), ih fun c hc => h c (List.mem_cons_of_mem b hc)]
      simp [escapeAt?, high, low, hvalue, hkeep]

/-- Encoding writes no escape that is kept. -/
theorem escapes_encode {safe : Text} (hsafe : ∀ c ∈ safe, c ≠ '%')
    (hkeep : ∀ c, unreserved c = false → c ∉ safe → ∀ b ∈ Text.encodeChar c, keep b = false)
    (s : Text) : escapes keep (encode safe s) = [] := by
  induction s with
  | nil => rfl
  | cons c s ih =>
      rcases encode_cons_cases safe c s with ⟨hc, hencode⟩ | ⟨hunreserved, hnot, hencode⟩
      · rw [hencode, escapes_cons_of_ne (ne_percent_of_safe hsafe hc), ih]
      · rw [hencode, escapes_flatMap_escapeByte
          (fun b hb => ⟨Text.lt_of_mem_encodeChar hb, hkeep c hunreserved hnot b hb⟩), ih]

/-- What is encoded for resolving is decoded as a whole, and comes back. -/
theorem stretches_encode_resolvable (s : Text) :
    stretches reserved (encode MaskText.resolvable s) = [.free (encode MaskText.resolvable s)] ∧
      decodeUnreserved (encode MaskText.resolvable s) = s :=
  ⟨stretches_of_escapes_eq_nil
      (escapes_encode (by decide) (fun _ _ => not_reserved_of_not_mem_resolvable) s),
    decodeUnreserved_encode s⟩

end RouteMask.Percent
