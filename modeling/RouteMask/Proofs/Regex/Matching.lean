import RouteMask.Regex.Program
import RouteMask.Regex.Subject

/-! # What an expression matches

The declarative reading of regular expressions, against which the search is measured.
`Regex.Matches s r i j saved` says that the expression `r` takes the subject `s` from the offset `i`
to the offset `j`, and that the offsets `saved` are remembered on the way, latest first, in the slots
of the groups.  Preference among several matches plays no part in it.

* `Regex.Matches.slot_mem`: the slots that a match saves are those of the groups of the expression
  (`Regex.indices`). -/

namespace RouteMask

namespace Regex

/-- `r` takes `s` from one offset to another and saves offsets by slot, latest first. -/
inductive Matches (s : Subject) : Regex → Nat → Nat → List (Nat × Nat) → Prop where
  | empty (i : Nat) : Matches s .empty i i []
  | set {members : CharSet} {i j : Nat} (h : s.next? members i = some j) :
      Matches s (.set members) i j []
  | anyByte {i : Nat} (h : i < s.size) : Matches s .anyByte i (i + 1) []
  | assert {a : Assertion} {i : Nat} (h : s.holds a i = true) : Matches s (.assert a) i i []
  | seq {a b : Regex} {i j k : Nat} {c d : List (Nat × Nat)} :
      Matches s a i j c → Matches s b j k d → Matches s (.seq a b) i k (d ++ c)
  | preferred {a b : Regex} {i j : Nat} {c : List (Nat × Nat)} :
      Matches s a i j c → Matches s (.alt a b) i j c
  | other {a b : Regex} {i j : Nat} {c : List (Nat × Nat)} :
      Matches s b i j c → Matches s (.alt a b) i j c
  | once {greedy : Bool} {a : Regex} {i j : Nat} {c : List (Nat × Nat)} :
      Matches s a i j c → Matches s (.plus greedy a) i j c
  | again {greedy : Bool} {a : Regex} {i j k : Nat} {c d : List (Nat × Nat)} :
      Matches s a i j c → Matches s (.plus greedy a) j k d → Matches s (.plus greedy a) i k (d ++ c)
  | group {index : Nat} {a : Regex} {i j : Nat} {c : List (Nat × Nat)} :
      Matches s a i j c →
        Matches s (.group index a) i j ((2 * index + 1, j) :: (c ++ [(2 * index, i)]))

/-- The numbers of the groups of an expression. -/
def indices : Regex → List Nat
  | empty | set _ | anyByte | assert _ => []
  | seq a b | alt a b => a.indices ++ b.indices
  | plus _ a => a.indices
  | group index a => index :: a.indices

/-- The slots that a match saves belong to the groups of the expression. -/
theorem Matches.slot_mem {s : Subject} {r : Regex} {i j : Nat} {saved : List (Nat × Nat)}
    (h : Matches s r i j saved) : ∀ p ∈ saved, p.1 / 2 ∈ r.indices := by
  induction h with
  | empty | set _ | anyByte _ | assert _ => intro p hp; cases hp
  | seq _ _ iha ihb =>
      intro p hp
      rcases List.mem_append.mp hp with hp | hp
      · exact List.mem_append_right _ (ihb p hp)
      · exact List.mem_append_left _ (iha p hp)
  | preferred _ ih => exact fun p hp => List.mem_append_left _ (ih p hp)
  | other _ ih => exact fun p hp => List.mem_append_right _ (ih p hp)
  | once _ ih => exact ih
  | again _ _ iha ihb =>
      intro p hp
      rcases List.mem_append.mp hp with hp | hp
      · exact ihb p hp
      · exact iha p hp
  | @group index a i j c _ ih =>
      intro p hp
      rcases List.mem_cons.mp hp with rfl | hp
      · exact List.mem_cons.mpr (Or.inl (by dsimp only; omega))
      rcases List.mem_append.mp hp with hp | hp
      · exact List.mem_cons_of_mem _ (ih p hp)
      · obtain rfl := List.mem_singleton.mp hp
        exact List.mem_cons.mpr (Or.inl (by dsimp only; omega))

end Regex

namespace Subject

/-- No character reaches over the end. -/
def Bounded (s : Subject) : Prop :=
  ∀ members i j, s.next? members i = some j → j ≤ s.size

theorem next?_eq_some {s : Subject} {members : CharSet} {i j : Nat}
    (h : s.next? members i = some j) :
    ∃ c, s.char? i = some c ∧ members.has c.toNat = true ∧ j = i + c.utf8Size := by
  unfold next? at h
  cases hc : s.char? i with
  | none => rw [hc] at h; cases h
  | some c =>
      rw [hc] at h
      dsimp only at h
      split at h
      · next hm => exact ⟨c, rfl, hm, (Option.some.inj h).symm⟩
      · cases h

end Subject

end RouteMask
