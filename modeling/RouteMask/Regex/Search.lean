import RouteMask.Regex.Program
import RouteMask.Regex.Subject

/-! # Searching

A program is run depth first: threads wait in order of preference, starting positions from left to
right, and the first thread that accepts wins.  A thread is at an address of the program and an
offset of the subject; whatever a thread can reach is the same for every thread at that place, so a
place that has been visited is not visited again.  This bounds the run by the number of places.

* `Search.saved?` gives the offsets that the winning thread saved.
* `Visited.has_insert` says what is visited after a visit. -/

namespace RouteMask

/-- The places that have been visited: for every offset the addresses, as the bits of a number. -/
structure Visited where
  rows : Array Nat

namespace Visited

/-- Nothing visited, with room for the offsets below `offsets`. -/
def nothing (offsets : Nat) : Visited :=
  ⟨Array.replicate offsets 0⟩

/-- Whether a place has been visited. -/
def has (v : Visited) (address pos : Nat) : Bool :=
  (v.rows.getD pos 0).testBit address

/-- Visit a place. -/
def insert (v : Visited) (address pos : Nat) : Visited :=
  ⟨v.rows.modify pos fun row => row ||| 1 <<< address⟩

theorem has_nothing (offsets address pos : Nat) : (nothing offsets).has address pos = false := by
  simp only [has, nothing, Array.getD_eq_getD_getElem?, Array.getElem?_replicate]
  split <;> simp

theorem size_insert (v : Visited) (address pos : Nat) :
    (v.insert address pos).rows.size = v.rows.size := by
  simp [insert]

theorem has_insert {v : Visited} {pos : Nat} (h : pos < v.rows.size) (address a p : Nat) :
    (v.insert address pos).has a p = (v.has a p || (a == address && p == pos)) := by
  simp only [has, insert, Array.getD_eq_getD_getElem?, Array.getElem?_modify]
  by_cases hp : pos = p
  · subst hp
    simp [h, Nat.one_shiftLeft, Nat.testBit_two_pow, Bool.beq_eq_decide_eq, eq_comm]
  · simp [hp, Ne.symm hp]

end Visited

/-- A thread of a run. -/
structure Thread where
  address : Nat
  pos : Nat
  /-- The saved offsets by slot, latest first. -/
  saved : List (Nat × Nat)

namespace Thread

/-- The thread at another address. -/
def goto (t : Thread) (address : Nat) : Thread :=
  { t with address := address }

/-- The threads that an instruction leads to, most preferred first. -/
def after (t : Thread) (s : Subject) : Instruction → List Thread
  | .char members =>
    match s.next? members t.pos with
    | some pos => [{ t.goto (t.address + 1) with pos := pos }]
    | none => []
  | .byte => if t.pos < s.size then [{ t.goto (t.address + 1) with pos := t.pos + 1 }] else []
  | .assert a => if s.holds a t.pos then [t.goto (t.address + 1)] else []
  | .save slot => [{ t.goto (t.address + 1) with saved := (slot, t.pos) :: t.saved }]
  | .jump target => [t.goto target]
  | .fork preferred other => [t.goto preferred, t.goto other]
  | .accept => []

/-- The thread that starts the program at an offset; slot 0 holds where it started. -/
def begin (pos : Nat) : Thread :=
  ⟨0, pos, [(0, pos)]⟩

end Thread

namespace Search

/-- Run the waiting threads until one accepts; slot 1 holds where it ended. -/
def run (program : Program) (s : Subject) :
    (fuel : Nat) → Visited → List Thread → Option (List (Nat × Nat))
  | fuel + 1, seen, t :: threads =>
    if seen.has t.address t.pos then run program s fuel seen threads
    else
      match program[t.address]? with
      | some .accept => some ((1, t.pos) :: t.saved)
      | some i => run program s fuel (seen.insert t.address t.pos) (t.after s i ++ threads)
      | none => run program s fuel seen threads
  | _, _, _ => none

/-- The threads at all offsets, from left to right. -/
def starts (s : Subject) : List Thread :=
  (List.range (s.size + 1)).map Thread.begin

/-- The offsets saved by the winning thread, if there is one.  A visit adds at most two threads, so
the fuel covers the threads of every start and of every visit. -/
def saved? (program : Program) (s : Subject) : Option (List (Nat × Nat)) :=
  run program s ((s.size + 1) * (2 * program.size + 1) + 1) (.nothing (s.size + 1)) (starts s)

end Search

end RouteMask
