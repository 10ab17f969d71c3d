import RouteMask.Text

/-! # Faults in a regular expression

What can be wrong with the text of a regular expression, and where: a fault and the fragment of the
text that it is about.  `SyntaxError.message` is the wording. -/

namespace RouteMask.Regex

/-- What is wrong. -/
inductive Fault where
  | escape
  | characterClass
  | missingBracket
  | missingParen
  | unexpectedParen
  | trailingBackslash
  | repeatArgument
  | repeatSize
  | repeatOperator
  | groupOperator
  | encoding
  | groupName
deriving DecidableEq

/-- A fault and the fragment that shows it. -/
structure SyntaxError where
  fault : Fault
  fragment : Text
deriving DecidableEq

/-- The name of a fault. -/
def Fault.name : Fault → String
  | .escape => "invalid escape sequence"
  | .characterClass => "invalid character class range"
  | .missingBracket => "missing ]"
  | .missingParen => "missing )"
  | .unexpectedParen => "unexpected )"
  | .trailingBackslash => "trailing \\"
  | .repeatArgument => "no argument for repetition operator"
  | .repeatSize => "invalid repetition size"
  | .repeatOperator => "bad repetition operator"
  | .groupOperator => "invalid perl operator"
  | .encoding => "invalid UTF-8"
  | .groupName => "invalid named capture group"

/-- The name of the fault, and the fragment after a colon unless it is empty. -/
def SyntaxError.message (e : SyntaxError) : Text :=
  if e.fragment.isEmpty then e.fault.name.toList
  else e.fault.name.toList ++ ':' :: ' ' :: e.fragment

end RouteMask.Regex
