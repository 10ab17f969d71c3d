import Mathlib.Logic.Basic
import RouteMask.Mask.Normal
import RouteMask.Proofs.Url.Written

/-! # Absolute and relative masks

A mask that is neither absolute nor begins with a wildcard is relative: it is resolved if there is a base
(`MaskText.IsRelative.absolute_eq`).  Every other mask stays as it is.  A scheme and two slashes make a
mask absolute (`MaskText.isAbsolute_of_isScheme`). -/

namespace RouteMask

open Percent

namespace MaskText

/-- A scheme and two slashes make a mask absolute. -/
theorem isAbsolute_of_isScheme {name : Text} (h : Url.IsScheme name) (rest : Text) :
    isAbsolute (name ++ "://".toList ++ rest) = true := by
  obtain ⟨c, hhead, halpha⟩ := h.isAlpha_head
  obtain ⟨more, rfl⟩ := List.head?_eq_some_iff.mp hhead
  have hletter : isSchemeLetter c = true := by simp [isSchemeLetter, halpha]
  have hchars : ∀ d ∈ more, isSchemeChar d = true := by
    intro d hd
    have hd := h.isSchemeChar_of_mem d (List.mem_cons_of_mem c hd)
    simp only [Url.isSchemeChar, Char.isAlphanum, Bool.or_eq_true, beq_iff_eq] at hd
    rcases hd with (((hd | hd) | rfl) | rfl) | rfl
    · simp [isSchemeChar, isSchemeLetter, hd]
    · simp [isSchemeChar, Unicode.isDecimal_of_isDigit hd]
    · decide
    · decide
    · decide
  have hcolon : ¬ isSchemeChar ':' = true := by decide
  have htext : c :: more ++ "://".toList ++ rest = c :: (more ++ ':' :: '/' :: '/' :: rest) := by simp
  rw [htext]
  unfold isAbsolute
  split
  · rfl
  · next first tail _ hcons =>
      obtain ⟨rfl, rfl⟩ := List.cons.inj hcons
      rw [List.dropWhile_append_of_pos hchars, List.dropWhile_cons_of_neg hcolon, hletter]
      rfl
  · next hnil => cases hnil

/-- The mask is resolved when there is a base. -/
def IsRelative (mask : Text) : Prop :=
  isAbsolute mask = false ∧ mask.head? ≠ some '*'

instance : DecidablePred IsRelative :=
  fun mask => inferInstanceAs (Decidable (isAbsolute mask = false ∧ mask.head? ≠ some '*'))

theorem IsRelative.absolute_eq {mask : Text} (h : IsRelative mask) {base : Text} (hbase : base ≠ []) :
    absolute mask (some base) =
      (Url.resolve base (encode resolvable mask)).map decodeUnreserved := by
  obtain ⟨c, base, rfl⟩ := List.exists_cons_of_ne_nil hbase
  have hnot : ¬(isAbsolute mask || mask.head? == some '*') = true := by simp [h.1, h.2]
  exact if_neg hnot

theorem absolute_of_not_isRelative {mask : Text} (h : ¬IsRelative mask) (base : Option Text) :
    absolute mask base = .ok mask := by
  have hself : (isAbsolute mask || mask.head? == some '*') = true := by
    rw [IsRelative, not_and_or, Bool.not_eq_false, not_not] at h
    rcases h with h | h
    · simp [h]
    · simp [h]
  exact if_pos hself

end MaskText

end RouteMask
