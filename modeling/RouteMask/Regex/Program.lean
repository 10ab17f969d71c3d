import RouteMask.Regex.Syntax

/-! # Programs

A regular expression is searched for by running a program over the text.  The program of an
expression occupies consecutive addresses: it is entered at the first and left past the last, and
`Regex.size` is its length.  `Regex.assemble` surrounds it with the instruction that accepts.

* `Regex.length_code`: the code of an expression is as long as its size, wherever it is placed. -/

namespace RouteMask

/-- One instruction.  Without an address it goes on to the next one. -/
inductive Instruction where
  /-- Consume one character of the set. -/
  | char (s : CharSet)
  /-- Consume one byte. -/
  | byte
  | assert (a : Assertion)
  /-- Remember the position in a slot. -/
  | save (slot : Nat)
  | jump (target : Nat)
  /-- Go on at either address, preferring the first. -/
  | fork (preferred other : Nat)
  | accept

/-- A program, by address. -/
abbrev Program := Array Instruction

namespace Regex

/-- The number of instructions of an expression. -/
def size : Regex → Nat
  | empty => 0
  | set _ | anyByte | assert _ => 1
  | seq a b => a.size + b.size
  | alt a b => a.size + b.size + 2
  | plus _ a => a.size + 1
  | group _ a => a.size + 2

/-- The instructions of an expression, placed at address `start`. -/
def code (start : Nat) : Regex → List Instruction
  | empty => []
  | set s => [.char s]
  | anyByte => [.byte]
  | assert a => [.assert a]
  | seq a b => a.code start ++ b.code (start + a.size)
  | alt a b =>
    .fork (start + 1) (start + a.size + 2) ::
      (a.code (start + 1) ++
        .jump (start + a.size + b.size + 2) :: b.code (start + a.size + 2))
  | plus greedy a =>
    a.code start ++
      [if greedy then .fork start (start + a.size + 1) else .fork (start + a.size + 1) start]
  | group index a => .save (2 * index) :: (a.code (start + 1) ++ [.save (2 * index + 1)])

theorem length_code (r : Regex) (start : Nat) : (r.code start).length = r.size := by
  induction r generalizing start with
  | empty | set | anyByte | assert => rfl
  | seq a b iha ihb => simp [code, size, iha, ihb]
  | alt a b iha ihb => simp [code, size, iha, ihb]; omega
  | plus greedy a ih => simp [code, size, ih]
  | group index a ih => simp [code, size, ih]

/-- The program that runs the expression and accepts. -/
def assemble (r : Regex) : Program :=
  (r.code 0 ++ [Instruction.accept]).toArray

end Regex

end RouteMask
