import RouteMask.Proofs.Text.Cut

/-! # Readers that respect a closing parenthesis

Every reader of a piece of an expression looks at a text from its beginning and gives back the rest.
Most of them do not care for what follows the closing parenthesis of the group that they stand in:
when such a reader stays in front of the parenthesis, it reads the same if nothing follows it, and
what it reads in front of the end of a text it reads in front of a parenthesis as well (`IsLocal`).

There is one way to fail on account of what follows: `[:` begins the name of a class only if `:]`
stands somewhere behind it.  Where nothing follows, a local reader does not fail. -/

namespace RouteMask

namespace Regex

variable {α β : Type}

/-- What the reader `f` reads of `s` does not depend on what follows behind a closing parenthesis. -/
structure IsLocalAt (f : Text → Option (α × Text)) (s : Text) : Prop where
  shrink : ∀ {more r a}, f (s ++ ')' :: more) = some (a, r ++ ')' :: more) → f s = some (a, r)
  extend : ∀ {r a}, f s = some (a, r) → ∀ more,
    f (s ++ ')' :: more) = some (a, r ++ ')' :: more) ∨ f (s ++ ')' :: more) = none ∧ more ≠ []

/-- A reader that gives back an end of its text and for which nothing matters behind a closing
parenthesis. -/
structure IsLocal (f : Text → Option (α × Text)) : Prop where
  suffix : ∀ {s r a}, f s = some (a, r) → r <:+ s
  local_at : ∀ s, IsLocalAt f s

/-! ### Local readers -/

theorem not_append_cons_suffix (r s : Text) (c : Char) : ¬ r ++ c :: s <:+ s := by
  intro h
  have := h.length_le
  simp at this
  omega

/-- An end of `s ++ t` that has `t` at its own end is made of an end of `s`. -/
theorem exists_of_append_suffix {r s t u : Text} (h : r ++ t <:+ u) (hu : u <:+ s ++ t) :
    ∃ v, u = v ++ t ∧ r <:+ v ∧ v <:+ s := by
  obtain ⟨x, hx⟩ := hu
  obtain ⟨y, rfl⟩ := h
  rw [← List.append_assoc, ← List.append_assoc] at hx
  obtain rfl := List.append_cancel_right hx
  exact ⟨y ++ r, by simp, ⟨y, rfl⟩, ⟨x, by simp⟩⟩

/-- Nothing can be read of the empty text, and of a parenthesis only with what follows it. -/
theorem IsLocalAt.nil {f : Text → Option (α × Text)} (h : f [] = none)
    (hs : ∀ {s r a}, f (')' :: s) = some (a, r) → r <:+ s) : IsLocalAt f [] := by
  constructor
  · intro more r a hf
    exact absurd (hs hf) (not_append_cons_suffix r more ')')
  · intro r a hf
    rw [h] at hf
    cases hf

theorem IsLocalAt.cons {f : Text → Option (α × Text)} {c : Char} {s : Text}
    (h : IsLocalAt (fun s => f (c :: s)) s) : IsLocalAt f (c :: s) :=
  ⟨h.shrink, h.extend⟩

theorem IsLocalAt.congr {f g : Text → Option (α × Text)} {s : Text} (hf : IsLocalAt f s)
    (h : f s = g s) (hp : ∀ more, f (s ++ ')' :: more) = g (s ++ ')' :: more)) :
    IsLocalAt g s := by
  constructor
  · intro more r a hg
    rw [← h]
    exact hf.shrink ((hp more).trans hg)
  · intro r a hg more
    rw [← hp]
    exact hf.extend (h.trans hg) more

/-- One reader after the other. -/
theorem IsLocalAt.bind {f : Text → Option (α × Text)} {g : α → Text → Option (β × Text)} {s : Text}
    (hf : IsLocalAt f s) (hs : ∀ {s r a}, f s = some (a, r) → r <:+ s)
    (hg : ∀ a r, f s = some (a, r) → IsLocalAt (g a) r)
    (hgs : ∀ {a s r b}, g a s = some (b, r) → r <:+ s) :
    IsLocalAt (fun s => (f s).bind fun (a, r) => g a r) s := by
  constructor
  · intro more r b h
    obtain ⟨⟨a, t⟩, hft, hgt⟩ := Option.bind_eq_some_iff.mp h
    obtain ⟨v, rfl, -, -⟩ := exists_of_append_suffix (hgs hgt) (hs hft)
    have hfs := hf.shrink hft
    rw [hfs]
    exact (hg a v hfs).shrink hgt
  · intro r b h more
    obtain ⟨⟨a, t⟩, hft, hgt⟩ := Option.bind_eq_some_iff.mp h
    rcases hf.extend hft more with hf' | ⟨hf', hm⟩
    · dsimp only
      rw [hf']
      exact (hg a t hft).extend hgt more
    · exact Or.inr ⟨by dsimp only; rw [hf']; rfl, hm⟩

namespace IsLocal

theorem none : IsLocal fun _ => (Option.none : Option (α × Text)) := by
  refine ⟨?_, fun s => ⟨?_, ?_⟩⟩ <;> (intros; contradiction)

/-- To read nothing. -/
theorem pure (a : α) : IsLocal fun s => some (a, s) := by
  refine ⟨?_, fun s => ⟨?_, ?_⟩⟩
  · intro s r b h
    cases h
    exact List.suffix_rfl
  · intro more r b h
    simp only [Option.some.injEq, Prod.mk.injEq] at h
    rw [h.1, List.append_cancel_right h.2]
  · intro r b h more
    cases h
    exact Or.inl rfl

/-- A reader that cannot fail. -/
theorem of_total {f : Text → α × Text} (hs : ∀ s, (f s).2 <:+ s)
    (h : ∀ s more, f (s ++ ')' :: more) = ((f s).1, (f s).2 ++ ')' :: more)) :
    IsLocal fun s => some (f s) := by
  refine ⟨?_, fun s => ⟨?_, ?_⟩⟩
  · intro s r a hf
    have := hs s
    rw [Option.some.inj hf] at this
    exact this
  · intro more r a hf
    simp only [h, Option.some.injEq, Prod.mk.injEq] at hf
    rw [← hf.1, ← List.append_cancel_right hf.2]
  · intro r a hf more
    rw [h, Option.some.inj hf]
    exact Or.inl rfl

theorem bind {f : Text → Option (α × Text)} {g : α → Text → Option (β × Text)} (hf : IsLocal f)
    (hg : ∀ a, IsLocal (g a)) : IsLocal fun s => (f s).bind fun (a, r) => g a r := by
  refine ⟨?_, fun s => (hf.local_at s).bind hf.suffix (fun a r _ => (hg a).local_at r)
    fun {a} => (hg a).suffix⟩
  intro s r b h
  obtain ⟨⟨a, t⟩, hft, hgt⟩ := Option.bind_eq_some_iff.mp h
  exact ((hg a).suffix hgt).trans (hf.suffix hft)

theorem map {f : Text → Option (α × Text)} (hf : IsLocal f) (g : α → β) :
    IsLocal fun s => (f s).map fun (a, r) => (g a, r) := by
  have h := hf.bind fun a => pure (g a)
  simp only [Option.map_eq_bind]
  exact h

/-- A reader of a first character and of what comes after it. -/
theorem cons {f : Text → Option (α × Text)} (h : f [] = Option.none)
    (hc : ∀ c, IsLocal fun s => f (c :: s)) : IsLocal f := by
  refine ⟨?_, ?_⟩
  · intro s r a hf
    cases s with
    | nil => rw [h] at hf; cases hf
    | cons c s => exact ((hc c).suffix hf).trans (List.suffix_cons c s)
  · intro s
    cases s with
    | nil => exact .nil h (hc ')').suffix
    | cons c s => exact .cons ((hc c).local_at s)

theorem ite {p : Prop} [Decidable p] {f g : Text → Option (α × Text)} (hf : IsLocal f)
    (hg : IsLocal g) : IsLocal fun s => if p then f s else g s := by
  by_cases h : p
  · simpa only [if_pos h] using hf
  · simpa only [if_neg h] using hg

end IsLocal

end Regex

end RouteMask
