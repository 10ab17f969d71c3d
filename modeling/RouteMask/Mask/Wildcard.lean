import RouteMask.Text

/-! # Wildcards

A run of stars in a mask stands for any text.  `Wildcard.expand` turns each run into the pattern
`(.*)`, but leaves a run that modifies a named parameter as it is.  Which of the two a run is, is
decided by the word directly in front of it: a longest stretch of letters, underscores, hyphens and
colons names a parameter when it begins with a colon. -/

namespace RouteMask.Wildcard

/-- What stands directly in front of a character. -/
inductive Context where
  /-- Nothing that belongs to a word. -/
  | open
  /-- A word that begins with a colon. -/
  | name
  /-- Another word. -/
  | word
  /-- Stars that have been kept. -/
  | kept
  /-- Stars that have been replaced. -/
  | replaced
deriving DecidableEq

/-- Whether a character belongs to a word. -/
def isWordChar (c : Char) : Bool :=
  c.isAlpha || c == ':' || c == '_' || c == '-'

/-- The pattern that captures any text. -/
def anyText : Text := "(.*)".toList

/-- What a star becomes, and the context behind it. -/
def star : Context → Text × Context
  | .open | .word => (anyText, .replaced)
  | .name | .kept => (['*'], .kept)
  | .replaced => ([], .replaced)

/-- The context behind a character other than a star. -/
def behind (before : Context) (c : Char) : Context :=
  if isWordChar c then
    match before with
    | .name => .name
    | .word => .word
    | _ => if c = ':' then .name else .word
  else .open

/-- Expand the stars of a text that stands in a context. -/
def expandFrom (before : Context) : Text → Text
  | [] => []
  | c :: rest =>
    if c = '*' then (star before).1 ++ expandFrom (star before).2 rest
    else c :: expandFrom (behind before c) rest

/-- Expand the runs of stars of a mask. -/
def expand (mask : Text) : Text :=
  expandFrom .open mask

end RouteMask.Wildcard
