import RouteMask.Regex.CharSet

/-! # Regular expressions

The syntax of regular expressions after reading: every construct is built from eight basic ones.
Alternatives are ordered, the first being preferred, and a greedy repetition prefers to go on.

* `Regex.opt`, `Regex.star`, `Regex.power` and `Regex.times` are the derived repetitions.
* A starred expression is an optional repetition of one or more, so an expression that matches the
  empty text is still tried once. -/

namespace RouteMask

/-- Conditions on a position that consume nothing. -/
inductive Assertion where
  | textStart
  | textEnd
  | lineStart
  | lineEnd
  | wordBoundary
  | noWordBoundary
deriving DecidableEq

/-- A regular expression. -/
inductive Regex where
  /-- The empty text. -/
  | empty
  /-- One character of a set. -/
  | set (s : CharSet)
  /-- One byte of the encoded text. -/
  | anyByte
  | assert (a : Assertion)
  | seq (first second : Regex)
  | alt (preferred other : Regex)
  /-- One repetition or more. -/
  | plus (greedy : Bool) (body : Regex)
  /-- A capturing group, numbered from one. -/
  | group (index : Nat) (body : Regex)

namespace Regex

/-- At most one repetition. -/
def opt (greedy : Bool) (r : Regex) : Regex :=
  if greedy then alt r empty else alt empty r

/-- Any number of repetitions. -/
def star (greedy : Bool) (r : Regex) : Regex :=
  opt greedy (plus greedy r)

/-- Exactly `n` repetitions. -/
def power (r : Regex) : Nat → Regex
  | 0 => empty
  | 1 => r
  | n + 2 => seq r (power r (n + 1))

/-- At most `n` repetitions. -/
def atMost (greedy : Bool) (r : Regex) : Nat → Regex
  | 0 => empty
  | 1 => opt greedy r
  | n + 2 => opt greedy (seq r (atMost greedy r (n + 1)))

/-- From `lo` to `hi` repetitions, without upper bound when there is no `hi`. -/
def times (greedy : Bool) (lo : Nat) (hi : Option Nat) (r : Regex) : Regex :=
  match hi, lo with
  | some hi, lo => if lo = 0 then atMost greedy r hi else
      if hi ≤ lo then power r lo else seq (power r lo) (atMost greedy r (hi - lo))
  | none, 0 => star greedy r
  | none, 1 => plus greedy r
  | none, lo + 2 => seq (power r (lo + 1)) (plus greedy r)

end Regex

end RouteMask
