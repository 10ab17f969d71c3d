import RouteMask.Text.Digits

/-! # Ranges of ASCII characters

The classes of characters that names, hosts and numbers are made of, as ranges of code points.  Facts
about such characters are settled by comparing numbers.  A number that has been written in decimal is
read back (`Text.decimalValue_toString`). -/

namespace RouteMask.Text

variable {c : Char}

theorem isLower_iff : c.isLower = true ↔ 0x61 ≤ c.toNat ∧ c.toNat ≤ 0x7A := by
  change (decide (c.val ≥ 'a'.val) && decide (c.val ≤ 'z'.val)) = true ↔ _
  simp [UInt32.le_iff_toNat_le]

theorem isUpper_iff : c.isUpper = true ↔ 0x41 ≤ c.toNat ∧ c.toNat ≤ 0x5A := by
  change decide (c.val ≥ 'A'.val ∧ c.val ≤ 'Z'.val) = true ↔ _
  simp [UInt32.le_iff_toNat_le]

theorem isDigit_iff : c.isDigit = true ↔ 0x30 ≤ c.toNat ∧ c.toNat ≤ 0x39 := by
  change (decide (c.val ≥ '0'.val) && decide (c.val ≤ '9'.val)) = true ↔ _
  simp [UInt32.le_iff_toNat_le]

theorem isAlpha_iff :
    c.isAlpha = true ↔
      0x41 ≤ c.toNat ∧ c.toNat ≤ 0x5A ∨ 0x61 ≤ c.toNat ∧ c.toNat ≤ 0x7A := by
  change (c.isUpper || c.isLower) = true ↔ _
  rw [Bool.or_eq_true, isUpper_iff, isLower_iff]

theorem isAlpha_of_isLower (h : c.isLower = true) : c.isAlpha = true :=
  isAlpha_iff.mpr (Or.inr (isLower_iff.mp h))

theorem isAlphanum_iff :
    c.isAlphanum = true ↔
      0x41 ≤ c.toNat ∧ c.toNat ≤ 0x5A ∨ 0x61 ≤ c.toNat ∧ c.toNat ≤ 0x7A ∨
        0x30 ≤ c.toNat ∧ c.toNat ≤ 0x39 := by
  change (c.isAlpha || c.isDigit) = true ↔ _
  rw [Bool.or_eq_true, isAlpha_iff, isDigit_iff, or_assoc]

/-- The letter in lower case stands 32 behind the capital letter. -/
theorem toNat_toLower : c.toLower.toNat = if c.isUpper then c.toNat + 32 else c.toNat := by
  unfold Char.toLower
  split
  · next h =>
      have hupper : c.isUpper = true := by
        change decide (c.val ≥ 'A'.val ∧ c.val ≤ 'Z'.val) = true
        simpa using h
      have hrange := isUpper_iff.mp hupper
      have hval : c.val.toNat = c.toNat := rfl
      rw [if_pos hupper]
      change (c.val + 32).toNat = c.val.toNat + 32
      rw [UInt32.toNat_add]
      have hwidth : (32 : UInt32).toNat = 32 := rfl
      omega
  · next h =>
      have hupper : ¬ c.isUpper = true := by
        change ¬ decide (c.val ≥ 'A'.val ∧ c.val ≤ 'Z'.val) = true
        simpa using h
      rw [if_neg hupper]

theorem eq_iff_toNat (d : Char) : c = d ↔ c.toNat = d.toNat :=
  Char.toNat_inj.symm

/-! ### Written numbers -/

theorem isDigit_of_mem_toString {n : Nat} (h : c ∈ (toString n).toList) : c.isDigit = true := by
  rw [Nat.toString_eq_ofList_toDigits, String.toList_ofList] at h
  exact Nat.isDigit_of_mem_toDigits (by decide) (by decide) h

/-- A number can be told from how it is written. -/
theorem toList_toString_injective : Function.Injective fun n : Nat => (toString n).toList := by
  intro i j hij
  simp only [Nat.toString_eq_ofList_toDigits, String.toList_ofList] at hij
  rw [← Nat.ofDigitChars_ten_toDigits (n := i), hij, Nat.ofDigitChars_ten_toDigits]

theorem toString_ne_nil (n : Nat) : (toString n).toList ≠ [] := by
  rw [Nat.toString_eq_ofList_toDigits, String.toList_ofList]
  exact Nat.toDigits_ne_nil

/-- A port has at most five digits. -/
theorem length_toString_le {n : Nat} (h : n ≤ 65535) : (toString n).toList.length ≤ 5 := by
  rw [Nat.toString_eq_ofList_toDigits, String.toList_ofList,
    Nat.length_toDigits_le_iff (by decide) (by decide)]
  omega

/-- A number is read back from how it is written. -/
theorem decimalValue_toString (n : Nat) : decimalValue (toString n).toList = n := by
  have hvalue : ∀ (digits : Text) (init : Nat),
      digits.foldl (fun n c => n * 10 + (c.toNat - 48)) init = Nat.ofDigitChars 10 digits init := by
    intro digits
    induction digits with
    | nil => exact fun _ => rfl
    | cons c digits ih =>
        intro init
        rw [List.foldl_cons, Nat.ofDigitChars_cons, ih, Nat.mul_comm init 10]
        rfl
  rw [decimalValue, hvalue, Nat.toString_eq_ofList_toDigits, String.toList_ofList,
    Nat.ofDigitChars_ten_toDigits]

end RouteMask.Text
