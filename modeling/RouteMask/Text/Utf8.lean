import RouteMask.Text

/-! # Bytes of a text

A text is written in UTF-8 by `Text.encodeChar`, and read back by `Text.decode`, which also accepts
broken input: the longest beginning of an encoded character that is not completed is replaced by one
replacement character, and so is each byte that begins nothing.  Bytes are numbers below 256.

* `Text.decodeFrom_encodeChar`: an encoded character is read back, whatever follows it. -/

namespace RouteMask.Text

/-- The UTF-8 bytes of a character. -/
def encodeChar (c : Char) : List Nat :=
  let n := c.toNat
  if n < 0x80 then [n]
  else if n < 0x800 then [0xC0 + n / 64, 0x80 + n % 64]
  else if n < 0x10000 then [0xE0 + n / 4096, 0x80 + n / 64 % 64, 0x80 + n % 64]
  else [0xF0 + n / 262144, 0x80 + n / 4096 % 64, 0x80 + n / 64 % 64, 0x80 + n % 64]

/-- A character whose bytes have been read in part: the bits so far, the number of bytes that are
missing, and the range that the next one has to be in. -/
structure PartialChar where
  bits : Nat
  missing : Nat
  lo : Nat
  hi : Nat

/-- What stands for input that is no character. -/
def replacement : Char := '\uFFFD'

/-- The beginning of a character of several bytes, by its first byte.  The range of the second byte
leaves out overlong forms, surrogates and what lies beyond the last code point. -/
def firstByte? (b : Nat) : Option PartialChar :=
  if 0xC2 ≤ b ∧ b ≤ 0xDF then some ⟨b - 0xC0, 1, 0x80, 0xBF⟩
  else if b = 0xE0 then some ⟨0, 2, 0xA0, 0xBF⟩
  else if b = 0xED then some ⟨0xD, 2, 0x80, 0x9F⟩
  else if 0xE1 ≤ b ∧ b ≤ 0xEF then some ⟨b - 0xE0, 2, 0x80, 0xBF⟩
  else if b = 0xF0 then some ⟨0, 3, 0x90, 0xBF⟩
  else if b = 0xF4 then some ⟨4, 3, 0x80, 0x8F⟩
  else if 0xF1 ≤ b ∧ b ≤ 0xF3 then some ⟨b - 0xF0, 3, 0x80, 0xBF⟩
  else none

/-- The characters that a byte completes when none was begun, and the character that it begins. -/
def begin (b : Nat) : Text × Option PartialChar :=
  if b < 0x80 then ([Char.ofNat b], none)
  else
    match firstByte? b with
    | some p => ([], some p)
    | none => ([replacement], none)

/-- The characters that a byte completes after `p` was begun, and what has been begun then. -/
def advance (p : PartialChar) (b : Nat) : Text × Option PartialChar :=
  if p.lo ≤ b ∧ b ≤ p.hi then
    let bits := p.bits * 64 + (b - 0x80)
    if p.missing ≤ 1 then ([Char.ofNat bits], none) else ([], some ⟨bits, p.missing - 1, 0x80, 0xBF⟩)
  else (replacement :: (begin b).1, (begin b).2)

/-- The characters that a byte completes, whatever was begun. -/
def feed (begun : Option PartialChar) (b : Nat) : Text × Option PartialChar :=
  match begun with
  | none => begin b
  | some p => advance p b

/-- What an unfinished character leaves at the end. -/
def abandon (begun : Option PartialChar) : Text :=
  if begun.isSome then [replacement] else []

/-- Read bytes after a character was begun. -/
def decodeFrom (begun : Option PartialChar) : List Nat → Text
  | [] => abandon begun
  | b :: bytes => (feed begun b).1 ++ decodeFrom (feed begun b).2 bytes

/-- Read bytes. -/
def decode (bytes : List Nat) : Text :=
  decodeFrom none bytes

/-! ### Reading back -/

theorem toNat_range (c : Char) : c.toNat < 0xD800 ∨ 0xDFFF < c.toNat ∧ c.toNat < 0x110000 := c.valid

theorem decodeFrom_encodeChar (c : Char) (bytes : List Nat) :
    decodeFrom none (encodeChar c ++ bytes) = c :: decodeFrom none bytes := by
  have hc := toNat_range c
  have hid : Char.ofNat c.toNat = c := Char.ofNat_toNat c
  unfold encodeChar
  generalize hn : c.toNat = n at hc hid
  dsimp only
  split
  · next h => simp [decodeFrom, feed, begin, h, hid]
  split
  · next h₁ h₂ =>
    have e₁ : firstByte? (0xC0 + n / 64) = some ⟨n / 64, 1, 0x80, 0xBF⟩ := by
      rw [firstByte?, if_pos (by omega)]; simp
    have a₁ : advance ⟨n / 64, 1, 0x80, 0xBF⟩ (0x80 + n % 64) = ([c], none) := by
      rw [advance, if_pos (by dsimp only; omega)]
      simp [show n / 64 * 64 + n % 64 = n by omega, hid]
    simp [decodeFrom, feed, begin, e₁, a₁, show ¬ 0xC0 + n / 64 < 0x80 by omega]
  split
  · next h₁ h₂ h₃ =>
    obtain ⟨lo, hi, e₁, hlo⟩ : ∃ lo hi, firstByte? (0xE0 + n / 4096) = some ⟨n / 4096, 2, lo, hi⟩ ∧
        lo ≤ 0x80 + n / 64 % 64 ∧ 0x80 + n / 64 % 64 ≤ hi := by
      unfold firstByte?
      rw [if_neg (by omega)]
      by_cases h0 : n / 4096 = 0
      · exact ⟨_, _, by rw [if_pos (by omega), h0], by omega, by omega⟩
      by_cases hd : n / 4096 = 0xD
      · exact ⟨_, _, by rw [if_neg (by omega), if_pos (by omega), hd], by omega, by omega⟩
      · refine ⟨0x80, 0xBF, ?_, by omega, by omega⟩
        rw [if_neg (by omega), if_neg (by omega), if_pos (by omega)]
        simp
    have a₁ : advance ⟨n / 4096, 2, lo, hi⟩ (0x80 + n / 64 % 64) =
        ([], some ⟨n / 64, 1, 0x80, 0xBF⟩) := by
      rw [advance, if_pos (by dsimp only; omega)]
      simp [show n / 4096 * 64 + n / 64 % 64 = n / 64 by omega]
    have a₂ : advance ⟨n / 64, 1, 0x80, 0xBF⟩ (0x80 + n % 64) = ([c], none) := by
      rw [advance, if_pos (by dsimp only; omega)]
      simp [show n / 64 * 64 + n % 64 = n by omega, hid]
    simp [decodeFrom, feed, begin, e₁, a₁, a₂, show ¬ 0xE0 + n / 4096 < 0x80 by omega]
  · next h₁ h₂ h₃ =>
    obtain ⟨lo, hi, e₁, hlo⟩ : ∃ lo hi,
        firstByte? (0xF0 + n / 262144) = some ⟨n / 262144, 3, lo, hi⟩ ∧
        lo ≤ 0x80 + n / 4096 % 64 ∧ 0x80 + n / 4096 % 64 ≤ hi := by
      unfold firstByte?
      rw [if_neg (by omega), if_neg (by omega), if_neg (by omega), if_neg (by omega)]
      by_cases h0 : n / 262144 = 0
      · exact ⟨_, _, by rw [if_pos (by omega), h0], by omega, by omega⟩
      by_cases hd : n / 262144 = 4
      · exact ⟨_, _, by rw [if_neg (by omega), if_pos (by omega), hd], by omega, by omega⟩
      · refine ⟨0x80, 0xBF, ?_, by omega, by omega⟩
        rw [if_neg (by omega), if_neg (by omega), if_pos (by omega)]
        simp
    have a₁ : advance ⟨n / 262144, 3, lo, hi⟩ (0x80 + n / 4096 % 64) =
        ([], some ⟨n / 4096, 2, 0x80, 0xBF⟩) := by
      rw [advance, if_pos (by dsimp only; omega)]
      simp [show n / 262144 * 64 + n / 4096 % 64 = n / 4096 by omega]
    have a₂ : advance ⟨n / 4096, 2, 0x80, 0xBF⟩ (0x80 + n / 64 % 64) =
        ([], some ⟨n / 64, 1, 0x80, 0xBF⟩) := by
      rw [advance, if_pos (by dsimp only; omega)]
      simp [show n / 4096 * 64 + n / 64 % 64 = n / 64 by omega]
    have a₃ : advance ⟨n / 64, 1, 0x80, 0xBF⟩ (0x80 + n % 64) = ([c], none) := by
      rw [advance, if_pos (by dsimp only; omega)]
      simp [show n / 64 * 64 + n % 64 = n by omega, hid]
    simp [decodeFrom, feed, begin, e₁, a₁, a₂, a₃, show ¬ 0xF0 + n / 262144 < 0x80 by omega]

end RouteMask.Text
