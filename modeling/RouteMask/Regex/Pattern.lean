import RouteMask.Regex.Reader
import RouteMask.Regex.Search

/-! # Patterns

A pattern is a regular expression that is ready to be searched for.  `Pattern.compile` reads its
source; `Pattern.find?` gives the texts of the capturing groups of the leftmost match, the earlier
alternative and the greedier repetition being preferred.

Offsets inside a character belong to the next character when a group's text is cut out. -/

namespace RouteMask

/-- A compiled regular expression. -/
structure Pattern where
  source : Text
  /-- The number of capturing groups. -/
  groups : Nat
  /-- The names of groups, leftmost first. -/
  names : List (Nat × Text)
  program : Program

namespace Pattern

/-- Compile the source of a regular expression. -/
def compile (source : Text) : Except Regex.SyntaxError Pattern := do
  let reading ← Regex.read source
  .ok ⟨source, reading.groups, reading.names, reading.regex.assemble⟩

/-- The name of a group: a name that is used twice belongs to its first group. -/
def name? (p : Pattern) (index : Nat) : Option Text :=
  match p.names.lookup index with
  | some name => if (p.names.find? (·.2 == name)).map (·.1) == some index then some name else none
  | none => none

/-- The offsets between which a group matched, from the offsets saved by slot. -/
def span? (saved : List (Nat × Nat)) (index : Nat) : Option (Nat × Nat) :=
  match saved.lookup (2 * index), saved.lookup (2 * index + 1) with
  | some first, some last => some (first, last)
  | _, _ => none

/-- Insert an offset into an increasing list of distinct offsets. -/
def insertOffset (n : Nat) : List Nat → List Nat
  | [] => [n]
  | m :: ms => if n < m then n :: m :: ms else if n = m then m :: ms else m :: insertOffset n ms

/-- The texts of the groups from zero on, absent where a group took no part. -/
def texts (s : Subject) (spans : List (Option (Nat × Nat))) : List (Option Text) :=
  let offsets := (spans.filterMap id).foldl
    (fun acc span => insertOffset span.1 (insertOffset span.2 acc)) []
  let indices := s.indexOffsets 0 0 offsets
  let index (offset : Nat) : Nat := (indices.lookup offset).getD 0
  spans.map fun span =>
    span.map fun (first, last) => (s.text.drop (index first)).take (index last - index first)

/-- The texts of group zero, the whole match, and of the capturing groups. -/
def find? (p : Pattern) (subject : Text) : Option (List (Option Text)) :=
  let s := Subject.ofText subject
  (Search.saved? p.program s).map fun saved =>
    texts s ((List.range (p.groups + 1)).map (span? saved))

/-- Whether the pattern matches somewhere. -/
def matches? (p : Pattern) (subject : Text) : Bool :=
  (Search.saved? p.program (Subject.ofText subject)).isSome

end Pattern

end RouteMask
