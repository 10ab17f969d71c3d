import RouteMask.Proofs.Regex.Fragment
import RouteMask.Proofs.Regex.Spelling

/-! # The texts that an expression takes

What `Regex.Spells` says of sequences, options and repetitions, in terms of sets of texts.
An expression without groups takes texts wherever they stand (`Regex.Takes`); repetitions of it take
texts that are put together from those (`Copies`). -/

namespace RouteMask

/-- The text consists of so many texts of the set, one after the other. -/
inductive Copies (L : Text → Prop) : Nat → Text → Prop where
  | none : Copies L 0 []
  | more {s t : Text} {k : Nat} : L s → Copies L k t → Copies L (k + 1) (s ++ t)

namespace Regex

variable {r : Regex} {rs qs : List Regex} {before p after : Text} {c : List (Nat × Text)}

/-! ### Sequences, options and groups -/

theorem spells_empty_iff : Spells .empty before p after c ↔ p = [] ∧ c = [] := by
  constructor
  · intro h
    cases h
    exact ⟨rfl, rfl⟩
  · rintro ⟨rfl, rfl⟩
    exact .empty before after

theorem spells_seqAll_cons :
    Spells (seqAll (r :: rs)) before p after c ↔
      ∃ p₁ p₂ c₁ c₂, p = p₁ ++ p₂ ∧ c = c₂ ++ c₁ ∧ Spells r before p₁ (p₂ ++ after) c₁ ∧
        Spells (seqAll rs) (before ++ p₁) p₂ after c₂ := by
  cases rs with
  | nil =>
      constructor
      · intro h
        exact ⟨p, [], c, [], by simp, by simp, h, .empty _ _⟩
      · rintro ⟨p₁, p₂, c₁, c₂, rfl, rfl, h₁, h₂⟩
        obtain ⟨rfl, rfl⟩ := spells_empty_iff.mp h₂
        simpa [seqAll] using h₁
  | cons q rs =>
      constructor
      · intro h
        cases h with
        | seq h₁ h₂ => exact ⟨_, _, _, _, rfl, rfl, h₁, h₂⟩
      · rintro ⟨p₁, p₂, c₁, c₂, rfl, rfl, h₁, h₂⟩
        exact .seq h₁ h₂

theorem spells_seqAll_append :
    Spells (seqAll (rs ++ qs)) before p after c ↔
      ∃ p₁ p₂ c₁ c₂, p = p₁ ++ p₂ ∧ c = c₂ ++ c₁ ∧ Spells (seqAll rs) before p₁ (p₂ ++ after) c₁ ∧
        Spells (seqAll qs) (before ++ p₁) p₂ after c₂ := by
  induction rs generalizing before p c with
  | nil =>
      constructor
      · intro h
        exact ⟨[], p, [], c, rfl, by simp, .empty _ _, by simpa using h⟩
      · rintro ⟨p₁, p₂, c₁, c₂, rfl, rfl, h₁, h₂⟩
        obtain ⟨rfl, rfl⟩ := spells_empty_iff.mp h₁
        simpa using h₂
  | cons r rs ih =>
      rw [List.cons_append, spells_seqAll_cons]
      constructor
      · rintro ⟨p₁, p₂, c₁, c₂, rfl, rfl, h₁, h₂⟩
        obtain ⟨p₃, p₄, c₃, c₄, rfl, rfl, h₃, h₄⟩ := ih.mp h₂
        refine ⟨p₁ ++ p₃, p₄, c₃ ++ c₁, c₄, by simp, by simp, ?_, by simpa using h₄⟩
        exact spells_seqAll_cons.mpr ⟨p₁, p₃, c₁, c₃, rfl, rfl, by simpa using h₁, h₃⟩
      · rintro ⟨p₁, p₂, c₁, c₂, rfl, rfl, h₁, h₂⟩
        obtain ⟨p₃, p₄, c₃, c₄, rfl, rfl, h₃, h₄⟩ := spells_seqAll_cons.mp h₁
        refine ⟨p₃, p₄ ++ p₂, c₃, c₂ ++ c₄, by simp, by simp, by simpa using h₃, ?_⟩
        exact ih.mpr ⟨p₄, p₂, c₄, c₂, rfl, rfl, h₄, by simpa using h₂⟩

theorem spells_opt_iff :
    Spells (.opt true r) before p after c ↔ Spells r before p after c ∨ p = [] ∧ c = [] := by
  constructor
  · intro h
    cases h with
    | preferred h => exact Or.inl h
    | other h => exact Or.inr (spells_empty_iff.mp h)
  · rintro (h | h)
    · exact .preferred h
    · exact .other (spells_empty_iff.mpr h)

theorem spells_group_iff {index : Nat} :
    Spells (.group index r) before p after c ↔
      ∃ d, c = (index, p) :: d ∧ Spells r before p after d := by
  constructor
  · intro h
    cases h with
    | group h => exact ⟨_, rfl, h⟩
  · rintro ⟨d, rfl, h⟩
    exact .group h

/-! ### Expressions without groups -/

/-- The expression captures nothing and takes the texts of the set, whatever is around them. -/
def Takes (r : Regex) (L : Text → Prop) : Prop :=
  ∀ before p after c, Spells r before p after c ↔ L p ∧ c = []

variable {L M : Text → Prop}

theorem Takes.congr (h : Takes r L) (hLM : ∀ p, L p ↔ M p) : Takes r M := by
  intro before p after c
  rw [h before p after c, hLM]

theorem Takes.set (s : CharSet) :
    Takes (.set s) fun p => ∃ x : Char, p = [x] ∧ s.has x.toNat = true := by
  intro before p after c
  constructor
  · intro h
    cases h with
    | set _ _ h => exact ⟨⟨_, rfl, h⟩, rfl⟩
  · rintro ⟨⟨x, rfl, h⟩, rfl⟩
    exact .set before after h

theorem Takes.nil : Takes (seqAll []) fun p => p = [] := by
  intro before p after c
  exact spells_empty_iff

theorem Takes.append (h : Takes (seqAll rs) L) (h' : Takes (seqAll qs) M) :
    Takes (seqAll (rs ++ qs)) fun p => ∃ p₁ p₂, p = p₁ ++ p₂ ∧ L p₁ ∧ M p₂ := by
  intro before p after c
  rw [spells_seqAll_append]
  constructor
  · rintro ⟨p₁, p₂, c₁, c₂, rfl, rfl, h₁, h₂⟩
    obtain ⟨hL, rfl⟩ := (h ..).mp h₁
    obtain ⟨hM, rfl⟩ := (h' ..).mp h₂
    exact ⟨⟨p₁, p₂, rfl, hL, hM⟩, rfl⟩
  · rintro ⟨⟨p₁, p₂, rfl, hL, hM⟩, rfl⟩
    exact ⟨p₁, p₂, [], [], rfl, rfl, (h ..).mpr ⟨hL, rfl⟩, (h' ..).mpr ⟨hM, rfl⟩⟩

theorem Takes.opt (h : Takes r L) : Takes (.opt true r) fun p => ∃ k ≤ 1, Copies L k p := by
  intro before p after c
  rw [spells_opt_iff]
  constructor
  · rintro (h' | ⟨rfl, rfl⟩)
    · obtain ⟨hL, rfl⟩ := (h ..).mp h'
      refine ⟨⟨1, Nat.le_refl 1, ?_⟩, rfl⟩
      simpa using Copies.more hL .none
    · exact ⟨⟨0, by omega, .none⟩, rfl⟩
  · rintro ⟨⟨k, hk, hc⟩, rfl⟩
    cases hc with
    | none => exact Or.inr ⟨rfl, rfl⟩
    | @more s t k hL hrest =>
        obtain rfl : k = 0 := by omega
        cases hrest
        exact Or.inl ((h ..).mpr ⟨by simpa using hL, rfl⟩)

theorem Takes.plus {greedy : Bool} (h : Takes r L) :
    Takes (.plus greedy r) fun p => ∃ k, Copies L (k + 1) p := by
  intro before p after c
  constructor
  · intro hs
    generalize hr : Regex.plus greedy r = q at hs
    induction hs with
    | once hs _ =>
        cases hr
        obtain ⟨hL, rfl⟩ := (h ..).mp hs
        exact ⟨⟨0, by simpa using Copies.more hL .none⟩, rfl⟩
    | again hs _ _ ih =>
        cases hr
        obtain ⟨hL, rfl⟩ := (h ..).mp hs
        obtain ⟨⟨k, hk⟩, rfl⟩ := ih rfl
        exact ⟨⟨k + 1, .more hL hk⟩, rfl⟩
    | _ => cases hr
  · rintro ⟨⟨k, hk⟩, rfl⟩
    induction k generalizing before p with
    | zero =>
        cases hk with
        | more hL hrest =>
            cases hrest
            exact .once ((h ..).mpr ⟨by simpa using hL, rfl⟩)
    | succ k ih =>
        cases hk with
        | more hL hrest => exact .again (c := []) ((h ..).mpr ⟨hL, rfl⟩) (ih _ _ hrest)

theorem Takes.star (h : Takes r L) : Takes (.star true r) fun p => ∃ k, Copies L k p := by
  intro before p after c
  have hplus : Takes (.plus true r) fun p => ∃ k, Copies L (k + 1) p := h.plus
  rw [Regex.star, spells_opt_iff, hplus before p after c]
  constructor
  · rintro (⟨⟨k, hk⟩, rfl⟩ | ⟨rfl, rfl⟩)
    · exact ⟨⟨k + 1, hk⟩, rfl⟩
    · exact ⟨⟨0, .none⟩, rfl⟩
  · rintro ⟨⟨k, hk⟩, rfl⟩
    cases k with
    | zero =>
        cases hk
        exact Or.inr ⟨rfl, rfl⟩
    | succ k => exact Or.inl ⟨⟨k, hk⟩, rfl⟩

end Regex

end RouteMask
