import RouteMask.Template.Part

/-! # The regular expression of a template

A template is matched by a regular expression that `Template.source?` writes: literals with their
special characters escaped, one capturing group for each parameter that captures, anchors at both
ends, and, unless it is strict, one delimiter more at the end.  `Template.escape` puts a backslash before
each special character. -/

namespace RouteMask.Template

/-- The characters that are escaped. -/
def specialChars : Text := ".+*?=^!:$\x7b\x7d()[]|/\\".toList

/-- Put a backslash before each special character. -/
def escape (s : Text) : Text :=
  s.flatMap fun c => if c ∈ specialChars then ['\\', c] else [c]

/-- The characters that end the value of a parameter without pattern of its own. -/
def usualDelimiter : Text := "/#?".toList

/-- The characters that a parameter takes into its lead. -/
def usualLeads : Text := "./".toList

/-- The pattern of a parameter that has none of its own: some characters, as few as possible, none
of them a delimiter. -/
def segmentPattern (delimiter : Text) : Text :=
  "[^".toList ++ escape delimiter ++ "]+?".toList

/-- How a template is to be matched. -/
structure Style where
  /-- One of these characters may follow at the end. -/
  delimiter : Text
  /-- Nothing may follow at the end. -/
  strict : Bool
  /-- Case matters. -/
  sensitive : Bool

/-- A trailing delimiter may follow, and case does not matter. -/
def Style.default : Style := ⟨usualDelimiter, false, false⟩

/-- The expression of a parameter. -/
def parameterSource (p : Parameter) : Except Error Text :=
  let lead := escape p.lead
  let trail := escape p.trail
  if p.isCapturing then
    if p.lead.isEmpty && p.trail.isEmpty then
      if p.isRepeated then .error (.unrepeatable p.name)
      else .ok ('(' :: p.pattern ++ ')' :: p.modifier)
    else if p.isRepeated then
      .ok ("(?:".toList ++ lead ++ "((?:".toList ++ p.pattern ++ ")(?:".toList ++ trail ++ lead ++
        "(?:".toList ++ p.pattern ++ "))*)".toList ++ trail ++ ')' ::
        (if p.modifier = ['*'] then ['?'] else []))
    else .ok ("(?:".toList ++ lead ++ '(' :: p.pattern ++ ')' :: trail ++ ')' :: p.modifier)
  else .ok ("(?:".toList ++ lead ++ trail ++ ')' :: p.modifier)

/-- The expression of a part. -/
def partSource : Part → Except Error Text
  | .literal text => .ok (escape text)
  | .parameter p => parameterSource p

/-- The expression of a template. -/
def source? (style : Style) (template : Template) : Except Error Text := do
  let body ← template.mapM partSource
  .ok ((if style.sensitive then [] else "(?i)".toList) ++ '^' :: body.flatten ++
    (if style.strict then [] else '[' :: escape style.delimiter ++ "]?".toList) ++ ['$'])

end RouteMask.Template
