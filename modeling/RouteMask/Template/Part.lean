import RouteMask.Template.Lexeme

/-! # Parts of a template

A template is a sequence of literal texts and parameters.  A parameter has a name, the text that
stands around it, the pattern of its value and a modifier; one without pattern is a literal group,
which captures nothing.  `Template.Error` says what can be wrong with a template. -/

namespace RouteMask

/-- A slot of a template. -/
structure Parameter where
  name : Text
  /-- The text in front of the value. -/
  lead : Text
  /-- The text behind the value. -/
  trail : Text
  /-- The regular expression of a value. -/
  pattern : Text
  modifier : Text
deriving DecidableEq

/-- Whether the parameter may take several values. -/
def Parameter.isRepeated (p : Parameter) : Bool :=
  p.modifier == ['*'] || p.modifier == ['+']

/-- Whether the parameter captures a value. -/
def Parameter.isCapturing (p : Parameter) : Bool :=
  !p.pattern.isEmpty

/-- A piece of a template. -/
inductive Part where
  | literal (text : Text)
  | parameter (p : Parameter)
deriving DecidableEq

/-- A template, piece by piece. -/
abbrev Template := List Part

namespace Template

/-- What can be wrong with a template. -/
inductive Error where
  | scan (e : ScanError)
  /-- Nothing separates a parameter from the one called `name` before it. -/
  | adjacent (name : Text)
  /-- A lexeme stands where another kind is needed. -/
  | unexpected (found : LexemeKind) (index : Nat) (expected : LexemeKind)
  /-- The lexemes ended without their end mark. -/
  | noEnd
  /-- A repeated parameter has no text that could separate its values. -/
  | unrepeatable (name : Text)
deriving DecidableEq

/-- The wording of an error. -/
def Error.message : Error → String
  | .scan e => e.message
  | .adjacent name =>
    s!"Must have text between two parameters, missing text after \"{String.ofList name}\""
  | .unexpected found index expected =>
    s!"Unexpected {found.word} at {index}, expected {expected.word}"
  | .noEnd => "Missing end"
  | .unrepeatable name =>
    s!"Can not repeat \"{String.ofList name}\" without a prefix and suffix"

/-- The parameters that capture, in order. -/
def keys (template : Template) : List Parameter :=
  template.filterMap fun
    | .literal _ => none
    | .parameter p => if p.isCapturing then some p else none

end Template

end RouteMask
