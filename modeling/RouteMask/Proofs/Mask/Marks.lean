import Mathlib.Data.List.Infix
import RouteMask.Handler

/-! # Question marks in masks

A question mark ends an optional part of a mask or begins a query, which is cut off.  A handler is
reported when its mask has a question mark in front of anything but question marks.  No mask that
loses a question mark is missed, but one that ends in a question mark loses nothing and is reported
all the same when it has another one further in front (`Handler.redundantQuery?_iff_losesMark`). -/

namespace RouteMask

namespace MaskText

variable {mask : Text}

/-- A question mark of the mask is cut off. -/
def LosesMark (mask : Text) : Prop :=
  ∃ front rest, mask = front ++ '?' :: rest ∧ withoutQuery mask <+: front

/-- A question mark stands in front of something else than question marks. -/
def HasInnerMark (mask : Text) : Prop :=
  ∃ front rest, mask = front ++ '?' :: rest ∧ ∃ c ∈ rest, c ≠ '?'

theorem withoutQuery_of_getLast? (h : mask.getLast? = some '?') : withoutQuery mask = mask :=
  if_pos h

theorem losesMark_iff : LosesMark mask ↔ '?' ∈ mask ∧ mask.getLast? ≠ some '?' := by
  constructor
  · rintro ⟨front, rest, hmask, hprefix⟩
    refine ⟨by simp [hmask], fun hlast => ?_⟩
    -- The whole mask is longer than what is in front of one of its question marks.
    rw [withoutQuery_of_getLast? hlast, hmask] at hprefix
    have hlength := hprefix.length_le
    rw [List.length_append, List.length_cons] at hlength
    omega
  · rintro ⟨hmark, hlast⟩
    obtain ⟨front, rest, rfl⟩ := List.append_of_mem hmark
    refine ⟨front, rest, rfl, ?_⟩
    rw [withoutQuery, if_neg hlast, List.takeWhile_append]
    split
    · simp
    · exact List.takeWhile_prefix _

theorem hasInnerMark_of_losesMark (h : LosesMark mask) : HasInnerMark mask := by
  obtain ⟨hmark, hlast⟩ := losesMark_iff.mp h
  obtain ⟨front, rest, rfl⟩ := List.append_of_mem hmark
  refine ⟨front, rest, rfl, ?_⟩
  rcases List.eq_nil_or_concat rest with rfl | ⟨rest, c, rfl⟩
  · simp at hlast
  · rw [List.concat_eq_append, ← List.cons_append, ← List.append_assoc, List.getLast?_concat] at hlast
    exact ⟨c, by simp, fun hc => hlast (congrArg some hc)⟩

theorem losesMark_iff_hasInnerMark (hlast : mask.getLast? ≠ some '?') :
    LosesMark mask ↔ HasInnerMark mask := by
  refine ⟨hasInnerMark_of_losesMark, ?_⟩
  rintro ⟨front, rest, rfl, -⟩
  exact losesMark_iff.mpr ⟨by simp, hlast⟩

theorem mem_dropWhile_mark_iff {s : Text} : '?' ∈ s.dropWhile (· == '?') ↔
    ∃ before after, s = before ++ '?' :: after ∧ ∃ c ∈ before, c ≠ '?' := by
  induction s with
  | nil => simp
  | cons c s ih =>
      by_cases hc : c = '?'
      · subst hc
        rw [List.dropWhile_cons_of_pos (by simp), ih]
        constructor
        · rintro ⟨before, after, rfl, d, hd, hne⟩
          exact ⟨'?' :: before, after, rfl, d, .tail _ hd, hne⟩
        · rintro ⟨before, after, heq, d, hd, hne⟩
          cases hd with
          | head before => exact absurd (List.cons.inj heq).1.symm hne
          | tail b hd => exact ⟨_, after, (List.cons.inj heq).2, d, hd, hne⟩
      · rw [List.dropWhile_cons_of_neg (by simpa using hc)]
        constructor
        · intro hmark
          obtain ⟨before, after, rfl⟩ := List.append_of_mem (List.mem_of_ne_of_mem (Ne.symm hc) hmark)
          exact ⟨c :: before, after, rfl, c, .head _, hc⟩
        · rintro ⟨before, after, heq, -⟩
          simp [heq]

end MaskText

namespace Handler

open MaskText (HasInnerMark LosesMark withoutQuery)

theorem hasQuery_iff {mask : Text} : hasQuery mask = true ↔ HasInnerMark mask := by
  rw [hasQuery, List.contains_iff_mem, MaskText.mem_dropWhile_mark_iff]
  constructor
  · rintro ⟨before, after, hreverse, c, hc, hne⟩
    refine ⟨after.reverse, before.reverse, ?_, c, List.mem_reverse.mpr hc, hne⟩
    rw [← List.reverse_reverse mask, hreverse]
    simp
  · rintro ⟨front, rest, rfl, c, hc, hne⟩
    exact ⟨rest.reverse, front.reverse, by simp, c, List.mem_reverse.mpr hc, hne⟩

variable {α : Type}

theorem redundantQuery?_eq_some_iff {mask : Text} {action : α} {method : MethodRule}
    {base : Option Text} {found : Text × Text} :
    (Handler.mk (.text mask) action method base).redundantQuery? = some found ↔
      HasInnerMark mask ∧ found = (method.label, mask) := by
  rw [← hasQuery_iff, redundantQuery?]
  dsimp only
  split
  · simp [*, eq_comm]
  · simp [*]

/-- A handler is reported, by method and mask, whenever a question mark of the mask is cut off, and only
then, except for masks that end in a question mark and have another one further in front. -/
theorem redundantQuery?_iff_losesMark (mask : Text) (action : α) (method : MethodRule)
    (base : Option Text) :
    let handler := Handler.mk (.text mask) action method base
    (∀ found, handler.redundantQuery? = some found → found = (method.label, mask)) ∧
    (LosesMark mask → handler.redundantQuery? = some (method.label, mask)) ∧
    ((handler.redundantQuery? = some (method.label, mask) ↔ LosesMark mask) ↔
      ¬(mask.getLast? = some '?' ∧ HasInnerMark mask)) := by
  refine ⟨fun _ h => (redundantQuery?_eq_some_iff.mp h).2, fun h =>
    redundantQuery?_eq_some_iff.mpr ⟨MaskText.hasInnerMark_of_losesMark h, rfl⟩, ?_⟩
  rw [redundantQuery?_eq_some_iff]
  by_cases hlast : mask.getLast? = some '?'
  · simp [MaskText.losesMark_iff, hlast]
  · simp [MaskText.losesMark_iff_hasInnerMark hlast, hlast]

/-- Two optional parameters are reported as a query though nothing is cut off. -/
theorem redundantQuery?_optional_parameters :
    let mask := "/:a?/:b?".toList
    let handler := Handler.mk (.text mask) "a" .any none
    handler.redundantQuery? = some (['*'], mask) ∧ withoutQuery mask = mask ∧ ¬LosesMark mask ∧
      ¬(handler.redundantQuery? = some (['*'], mask) ↔ LosesMark mask) := by
  intro mask handler
  have hinner : HasInnerMark mask := ⟨"/:a".toList, "/:b?".toList, rfl, '/', by decide, by decide⟩
  refine ⟨rfl, rfl, fun h => (MaskText.losesMark_iff.mp h).2 rfl, fun h => ?_⟩
  exact (redundantQuery?_iff_losesMark mask "a" .any none).2.2.mp h ⟨rfl, hinner⟩

end Handler

end RouteMask
