import RouteMask.Regex.Syntax

/-! # Subjects

The text that is searched, addressed by the byte offsets of its UTF-8 form.  At the offset where a
character begins the cell holds the character; at the offsets inside it the cell is blank.

* `Subject.next?` consumes a character of a set, `Subject.holds` decides an assertion.
* `Subject.indexOffsets` turns offsets into places of characters. -/

namespace RouteMask

/-- A text with its cells, one for each byte. -/
structure Subject where
  text : Text
  cells : Array (Option Char)

namespace Subject

/-- The cells of a character. -/
def charCells (c : Char) : List (Option Char) :=
  some c :: List.replicate (c.utf8Size - 1) none

/-- Lay out a text. -/
def ofText (text : Text) : Subject where
  text := text
  cells := (text.flatMap charCells).toArray

/-- The number of bytes. -/
def size (s : Subject) : Nat :=
  s.cells.size

/-- The character that begins at an offset. -/
def char? (s : Subject) (pos : Nat) : Option Char :=
  s.cells[pos]?.join

/-- The offset after the character at `pos`, if that character is in the set. -/
def next? (s : Subject) (members : CharSet) (pos : Nat) : Option Nat :=
  match s.char? pos with
  | some c => if members.has c.toNat then some (pos + c.utf8Size) else none
  | none => none

/-- Whether the byte at an offset is a word character. -/
def wordAt (s : Subject) (pos : Nat) : Bool :=
  match s.char? pos with
  | some c => Unicode.Ranges.has CharSet.wordRanges c.toNat
  | none => false

/-- Whether a test succeeds at the offset before. -/
def before (test : Nat → Bool) : Nat → Bool
  | 0 => false
  | pos + 1 => test pos

/-- Whether the line feed stands at an offset. -/
def newlineAt (s : Subject) (pos : Nat) : Bool :=
  s.char? pos == some '\n'

/-- Whether an assertion holds at an offset. -/
def holds (s : Subject) (a : Assertion) (pos : Nat) : Bool :=
  match a with
  | .textStart => pos == 0
  | .textEnd => pos == s.size
  | .lineStart => pos == 0 || before s.newlineAt pos
  | .lineEnd => pos == s.size || s.newlineAt pos
  | .wordBoundary => s.wordAt pos != before s.wordAt pos
  | .noWordBoundary => s.wordAt pos == before s.wordAt pos

/-! ### Offsets and characters -/

/-- The number of characters passed in going from offset `pos` to `stop`, stepping over a whole
character where one begins. -/
def stepsTo (s : Subject) (stop : Nat) : (fuel pos : Nat) → Nat
  | 0, _ => 0
  | fuel + 1, pos =>
    if stop ≤ pos then 0
    else s.stepsTo stop fuel (pos + (s.char? pos).elim 1 Char.utf8Size) + 1

/-- The character index of each of the increasing `offsets`, counted on from offset `pos` with
index `index`. -/
def indexOffsets (s : Subject) (pos index : Nat) : List Nat → List (Nat × Nat)
  | [] => []
  | offset :: rest =>
    let here := index + s.stepsTo offset (offset - pos) pos
    (offset, here) :: s.indexOffsets offset here rest

end Subject

end RouteMask
