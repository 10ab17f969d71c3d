import RouteMask.Regex.Bracket
import RouteMask.Regex.Syntax
import RouteMask.Unicode.Category

/-! # Reading regular expressions

A regular expression is read from left to right.  The reader's state (`Reader`) keeps the flags in
force, the pieces of the innermost open group and the groups around it; one step (`Reader.step`)
reads one construct and is at least one character long.  `Regex.read` is the whole reading.

* Capturing groups are numbered by their opening parenthesis, named or not.  A name that occurs
  twice belongs to the leftmost group.
* Repetition operators do not stack: `a**` is refused, `(?:a*)*` is not.
* Counted repetitions may not expand to more than `maxRepeat` copies of anything, nesting
  included. -/

namespace RouteMask.Regex

/-- The flags in force. -/
structure Flags where
  ignoreCase : Bool
  multiLine : Bool
  dotMatchesNewline : Bool
  swapGreed : Bool

/-- No flag in force. -/
def Flags.clear : Flags := ⟨false, false, false, false⟩

/-- A piece that has been read, with the greatest number of copies that counted repetitions make of
a part of it. -/
structure Piece where
  regex : Regex
  copies : Nat

/-- A piece without counted repetitions. -/
def Piece.plain (r : Regex) : Piece := ⟨r, 1⟩

/-- Join two pieces. -/
def Piece.join (f : Regex → Regex → Regex) (a b : Piece) : Piece :=
  ⟨f a.regex b.regex, max a.copies b.copies⟩

/-- Join pieces that are listed last to first. -/
def Piece.joinAll (f : Regex → Regex → Regex) : List Piece → Piece
  | [] => .plain .empty
  | last :: others => others.foldl (fun acc p => .join f p acc) last

/-- A group that is still open, or the whole expression. -/
structure Level where
  /-- The flags to return to when the group closes. -/
  outside : Flags
  /-- The number of the group, if it captures. -/
  capture : Option Nat
  /-- The finished alternatives, last to first. -/
  alternatives : List Piece
  /-- The pieces of the current alternative, last to first. -/
  pieces : List Piece

/-- The piece that a level amounts to when it closes. -/
def Level.close (level : Level) : Piece :=
  let body := Piece.joinAll .alt (Piece.joinAll .seq level.pieces :: level.alternatives)
  match level.capture with
  | some index => ⟨.group index body.regex, body.copies⟩
  | none => body

/-- The state of reading. -/
structure Reader where
  flags : Flags
  level : Level
  outer : List Level
  /-- The number of capturing groups opened so far. -/
  groups : Nat
  /-- The names of groups, latest first. -/
  names : List (Nat × Text)
  /-- The text from the last repetition operator on, when nothing else has been read since. -/
  repeated : Option Text

/-- The most copies that counted repetitions may make. -/
def maxRepeat : Nat := 1000

namespace Reader

/-- The state at the beginning of the text. -/
def start : Reader where
  flags := .clear
  level := ⟨.clear, none, [], []⟩
  outer := []
  groups := 0
  names := []
  repeated := none

/-- Add a piece to the current alternative. -/
def push (st : Reader) (p : Piece) : Reader :=
  { st with level := { st.level with pieces := p :: st.level.pieces }, repeated := none }

/-- Add an expression without counted repetitions. -/
def add (st : Reader) (r : Regex) : Reader :=
  st.push (.plain r)

/-- Add one code point, or its case orbit. -/
def literal (st : Reader) (n : Nat) : Reader :=
  st.add (.set (.single st.flags.ignoreCase n))

/-- End the current alternative. -/
def bar (st : Reader) : Reader :=
  { st with
    level := { st.level with
      alternatives := Piece.joinAll .seq st.level.pieces :: st.level.alternatives
      pieces := [] }
    repeated := none }

/-- Open a group. -/
def openGroup (st : Reader) (capture : Option Nat) : Reader :=
  { st with
    level := ⟨st.flags, capture, [], []⟩
    outer := st.level :: st.outer
    repeated := none }

/-- Open a capturing group. -/
def openCapture (st : Reader) (name : Option Text) : Reader :=
  let index := st.groups + 1
  { st.openGroup (some index) with
    groups := index
    names := match name with
      | some name => (index, name) :: st.names
      | none => st.names }

/-- Close the innermost group. -/
def closeGroup? (st : Reader) : Option Reader :=
  match st.outer with
  | [] => none
  | level :: outer =>
    some ({ st with flags := st.level.outside, level := level, outer := outer }.push st.level.close)

/-! ### Group operators -/

/-- Whether a character may stand in the name of a group. -/
def isNameChar (c : Char) : Bool :=
  [Unicode.Category.lu, Unicode.Category.ll, Unicode.Category.lt, Unicode.Category.lm,
    Unicode.Category.lo, Unicode.Category.nl, Unicode.Category.mn, Unicode.Category.mc,
    Unicode.Category.nd, Unicode.Category.pc].any (·.has c.toNat)

/-- A group operator that starts at `start` and has been read up to `rest` is refused. -/
def refuseOperator {α : Type} (start rest : Text) : Except SyntaxError α :=
  .error ⟨.groupOperator, Text.upTo start rest⟩

/-- The flags after `(?`, with the parenthesis or colon that ends them.  After a minus sign flags
are taken away, and then there has to be one. -/
def readFlags (start : Text) (negated seen : Bool) (flags : Flags) :
    Text → Except SyntaxError ((Flags × Bool) × Text)
  | [] => refuseOperator start []
  | 'i' :: rest => readFlags start negated true { flags with ignoreCase := !negated } rest
  | 'm' :: rest => readFlags start negated true { flags with multiLine := !negated } rest
  | 's' :: rest => readFlags start negated true { flags with dotMatchesNewline := !negated } rest
  | 'U' :: rest => readFlags start negated true { flags with swapGreed := !negated } rest
  | '-' :: rest =>
    if negated then refuseOperator start rest else readFlags start true false flags rest
  | c :: rest =>
    if (c = ':' ∨ c = ')') ∧ (negated = false ∨ seen = true) then .ok ((flags, c == ':'), rest)
    else refuseOperator start rest

/-- A named group, whose name stands in `body` up to the closing angle. -/
def openNamed (st : Reader) (start body : Text) : Except SyntaxError (Reader × Text) :=
  match Text.cut? (· == '>') body with
  | none => .error ⟨.groupName, start⟩
  | some (name, rest) =>
    if name ≠ [] ∧ name.all isNameChar then .ok (st.openCapture (some name), rest)
    else .error ⟨.groupName, Text.upTo start rest⟩

/-- What follows `(?` at `start`: a named group, a group with flags, or flags alone.  Conditions on
the text around a position are refused by name. -/
def openSpecial (st : Reader) (start body : Text) : Except SyntaxError (Reader × Text) :=
  match body with
  | '=' :: c :: rest => refuseOperator start (c :: rest)
  | '!' :: c :: rest => refuseOperator start (c :: rest)
  | '<' :: '=' :: c :: rest => refuseOperator start (c :: rest)
  | '<' :: '!' :: c :: rest => refuseOperator start (c :: rest)
  | 'P' :: '<' :: c :: rest => st.openNamed start (c :: rest)
  | '<' :: c :: rest => st.openNamed start (c :: rest)
  | _ => do
    let ((flags, opens), rest) ← readFlags start false false st.flags body
    if opens then .ok ({ st.openGroup none with flags := flags }, rest)
    else .ok ({ st with flags := flags, repeated := none }, rest)

/-! ### Repetitions -/

/-- Apply a repetition operator that starts at `start` to the last piece; `rest` follows the
operator and may begin with the mark that turns its greed round. -/
def applyRepeat (st : Reader) (start : Text) (lo : Nat) (hi : Option Nat) (rest : Text) :
    Except SyntaxError (Reader × Text) :=
  let (turned, rest) := match rest with
    | '?' :: rest => (true, rest)
    | rest => (false, rest)
  match st.repeated with
  | some first => .error ⟨.repeatOperator, Text.upTo first rest⟩
  | none =>
    let operator := Text.upTo start rest
    let bound := hi.getD lo
    if bound < lo ∨ maxRepeat < bound then .error ⟨.repeatSize, operator⟩
    else
      match st.level.pieces with
      | [] => .error ⟨.repeatArgument, operator⟩
      | p :: ps =>
        let copies := p.copies * max bound 1
        if maxRepeat < copies then .error ⟨.repeatSize, operator⟩
        else
          let greedy := st.flags.swapGreed == turned
          .ok ({ st with
            level := { st.level with pieces := ⟨.times greedy lo hi p.regex, copies⟩ :: ps }
            repeated := some start }, rest)

/-! ### Backslashes -/

/-- The text up to `\E` or to the end. -/
def cutQuoted : Text → Text × Text
  | '\\' :: 'E' :: rest => ([], rest)
  | c :: rest => (c :: (cutQuoted rest).1, (cutQuoted rest).2)
  | [] => ([], [])

/-- What a backslash at `start` and the text `body` after it stand for. -/
def backslash (st : Reader) (start body : Text) : Except SyntaxError (Reader × Text) :=
  match body with
  | 'b' :: rest => .ok (st.add (.assert .wordBoundary), rest)
  | 'B' :: rest => .ok (st.add (.assert .noWordBoundary), rest)
  | 'A' :: rest => .ok (st.add (.assert .textStart), rest)
  | 'z' :: rest => .ok (st.add (.assert .textEnd), rest)
  | 'C' :: rest => .ok (st.add .anyByte, rest)
  | 'Q' :: rest =>
    let (quoted, rest) := cutQuoted rest
    .ok ({ quoted.foldl (fun st c => st.literal c.toNat) st with repeated := none }, rest)
  | 'p' :: rest => do
    let (members, rest) ← readUnicodeClass st.flags.ignoreCase true start rest
    .ok (st.add (.set members), rest)
  | 'P' :: rest => do
    let (members, rest) ← readUnicodeClass st.flags.ignoreCase false start rest
    .ok (st.add (.set members), rest)
  | _ =>
    match body.head?.bind CharSet.shorthand? with
    | some (rs, positive) =>
      .ok (st.add (.set (.signed st.flags.ignoreCase positive (.ranges rs))), body.tail)
    | none => do
      let (n, rest) ← readEscape start body
      .ok (st.literal n, rest)

/-! ### The whole reading -/

/-- Read the construct that begins with `c`; `whole` is the expression from its beginning. -/
def step (whole : Text) (st : Reader) (c : Char) (rest : Text) :
    Except SyntaxError (Reader × Text) :=
  match c with
  | '(' =>
    match rest with
    | '?' :: body => st.openSpecial (c :: rest) body
    | _ => .ok (st.openCapture none, rest)
  | ')' =>
    match st.closeGroup? with
    | some st => .ok (st, rest)
    | none => .error ⟨.unexpectedParen, whole⟩
  | '|' => .ok (st.bar, rest)
  | '^' => .ok (st.add (.assert (if st.flags.multiLine then .lineStart else .textStart)), rest)
  | '$' => .ok (st.add (.assert (if st.flags.multiLine then .lineEnd else .textEnd)), rest)
  | '.' =>
    let members := if st.flags.dotMatchesNewline then .all else .compl (.single false 10)
    .ok (st.add (.set members), rest)
  | '[' => do
    let (members, rest) ← readBracket st.flags.ignoreCase rest
    .ok (st.add (.set members), rest)
  | '*' => st.applyRepeat (c :: rest) 0 none rest
  | '+' => st.applyRepeat (c :: rest) 1 none rest
  | '?' => st.applyRepeat (c :: rest) 0 (some 1) rest
  | '\x7b' =>
    match readCounts? rest with
    | some ((lo, hi), more) => st.applyRepeat (c :: rest) lo hi more
    | none => .ok (st.literal c.toNat, rest)
  | '\\' => st.backslash (c :: rest) rest
  | c => .ok (st.literal c.toNat, rest)

/-- Read constructs to the end of the text.  Each is at least one character long, so the length of
the text is enough `fuel`. -/
def run (whole : Text) : (fuel : Nat) → Reader → Text → Except SyntaxError Reader
  | fuel + 1, st, c :: rest => do
    let (st, rest) ← st.step whole c rest
    run whole fuel st rest
  | _, st, _ => .ok st

end Reader

/-- A regular expression as read: its syntax, the number of its capturing groups, and the names of
groups, leftmost first. -/
structure Reading where
  regex : Regex
  groups : Nat
  names : List (Nat × Text)

/-- Read a regular expression. -/
def read (source : Text) : Except SyntaxError Reading := do
  let st ← Reader.run source source.length .start source
  if st.outer.isEmpty then .ok ⟨st.level.close.regex, st.groups, st.names.reverse⟩
  else .error ⟨.missingParen, source⟩

end RouteMask.Regex
