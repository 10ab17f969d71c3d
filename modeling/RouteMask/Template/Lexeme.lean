import RouteMask.Text

/-! # Lexemes of a template

A template is the text of a mask in the language of literals and parameters.  `Lexeme.scan` cuts it
into lexemes: parameter names, parenthesised patterns, braces, modifiers, escaped characters and
plain characters, and a last lexeme that marks the end.

* `Lexeme.written` is the text that a lexeme stands for in the template.
* `ScanError.message` is the wording of what can go wrong. -/

namespace RouteMask

/-- The kinds of lexemes. -/
inductive LexemeKind where
  | openBrace
  | closeBrace
  | pattern
  | name
  | char
  | escapedChar
  | modifier
  | finish
deriving DecidableEq

/-- The word for a kind. -/
def LexemeKind.word : LexemeKind → String
  | .openBrace => "OPEN"
  | .closeBrace => "CLOSE"
  | .pattern => "PATTERN"
  | .name => "NAME"
  | .char => "CHAR"
  | .escapedChar => "ESCAPED_CHAR"
  | .modifier => "MODIFIER"
  | .finish => "END"

/-- A piece of a template, with the place where it begins. -/
structure Lexeme where
  kind : LexemeKind
  index : Nat
  value : Text
deriving DecidableEq

/-- Why a template cannot be cut into lexemes, and where. -/
inductive ScanError where
  | trailingEscape (index : Nat)
  | missingName (index : Nat)
  | questionMark (index : Nat)
  | capturingGroup (index : Nat)
  | unbalanced (index : Nat)
  | missingPattern (index : Nat)
deriving DecidableEq

/-- The wording of an error. -/
def ScanError.message : ScanError → String
  | .trailingEscape i => s!"Trailing escape at {i}"
  | .missingName i => s!"Missing parameter name at {i}"
  | .questionMark i => s!"Pattern cannot start with \"?\" at {i}"
  | .capturingGroup i => s!"Capturing groups are not allowed at {i}"
  | .unbalanced i => s!"Unbalanced pattern at {i}"
  | .missingPattern i => s!"Missing pattern at {i}"

namespace Lexeme

/-- Whether a character may stand in a parameter name. -/
def isNameChar (c : Char) : Bool :=
  c.isAlphanum || c == '_'

/-- Put text in front of what a reader has found. -/
def prepend (s : Text) : Except ScanError (Text × Text) → Except ScanError (Text × Text) :=
  Except.map fun (found, rest) => (s ++ found, rest)

/-- The inside of a parenthesised pattern and what follows its closing parenthesis.  The pattern
began at `start`; the reader is at `index` with `depth` inner groups open.  A backslash keeps the
character after it, and an inner group has to be marked by a question mark. -/
def readPattern (start : Nat) : (depth index : Nat) → Text → Except ScanError (Text × Text)
  | _, _, [] => .error (.unbalanced start)
  | depth, index, '\\' :: c :: rest => prepend ['\\', c] (readPattern start depth (index + 2) rest)
  | 0, _, ')' :: rest => .ok ([], rest)
  | depth + 1, index, ')' :: rest => prepend [')'] (readPattern start depth (index + 1) rest)
  | depth, index, '(' :: rest =>
    if rest.head? = some '?' then prepend ['('] (readPattern start (depth + 1) (index + 1) rest)
    else .error (.capturingGroup index)
  | depth, index, c :: rest => prepend [c] (readPattern start depth (index + 1) rest)

/-- The pattern whose opening parenthesis stands at `start` and is followed by `body`. -/
def readGroup (start : Nat) (body : Text) : Except ScanError (Text × Text) :=
  if body.head? = some '?' then .error (.questionMark (start + 1))
  else
    match readPattern start 0 (start + 1) body with
    | .error e => .error e
    | .ok ([], _) => .error (.missingPattern start)
    | .ok found => .ok found

/-- The lexeme that begins at `index` with the character `c`, and the text after it. -/
def next (index : Nat) (c : Char) (rest : Text) : Except ScanError (Lexeme × Text) :=
  match c with
  | '*' | '+' | '?' => .ok (⟨.modifier, index, [c]⟩, rest)
  | '\\' =>
    match rest with
    | d :: rest => .ok (⟨.escapedChar, index, [d]⟩, rest)
    | [] => .error (.trailingEscape index)
  | '\x7b' => .ok (⟨.openBrace, index, [c]⟩, rest)
  | '\x7d' => .ok (⟨.closeBrace, index, [c]⟩, rest)
  | ':' =>
    match rest.takeWhile isNameChar with
    | [] => .error (.missingName index)
    | name => .ok (⟨.name, index, name⟩, rest.dropWhile isNameChar)
  | '(' =>
    match readGroup index rest with
    | .ok (pattern, rest) => .ok (⟨.pattern, index, pattern⟩, rest)
    | .error e => .error e
  | c => .ok (⟨.char, index, [c]⟩, rest)

/-- The text that a lexeme stands for. -/
def written (l : Lexeme) : Text :=
  match l.kind with
  | .escapedChar => '\\' :: l.value
  | .name => ':' :: l.value
  | .pattern => '(' :: l.value ++ [')']
  | _ => l.value

/-- The lexemes from `index` on.  Each is at least one character long, so the length of the text is
enough `fuel`. -/
def scanFrom : (fuel index : Nat) → Text → Except ScanError (List Lexeme)
  | fuel + 1, index, c :: rest => do
    let (lexeme, rest') ← next index c rest
    let lexemes ← scanFrom fuel (index + (rest.length + 1 - rest'.length)) rest'
    .ok (lexeme :: lexemes)
  | _, index, _ => .ok [⟨.finish, index, []⟩]

/-- The lexemes of a template. -/
def scan (template : Text) : Except ScanError (List Lexeme) :=
  scanFrom template.length 0 template

end Lexeme

end RouteMask
