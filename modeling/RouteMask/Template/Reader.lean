import RouteMask.Template.Source

/-! # Reading templates

`Template.read` makes the parts of a template from its lexemes.  Characters are collected until
a parameter or a group in braces begins; a parameter takes the character before it as its lead when
that is one of the given `leads`.  Patterns without name are numbered from zero.

A parameter without pattern of its own has to be separated from the one before it, or else nothing
would tell where one value ends and the next begins. -/

namespace RouteMask.Template

/-- The value of the first lexeme if it is of the kind, and the lexemes after it. -/
def take? (kind : LexemeKind) : List Lexeme → Option Text × List Lexeme
  | l :: rest => if l.kind = kind then (some l.value, rest) else (none, l :: rest)
  | [] => (none, [])

/-- The lexemes after the first, which has to be of the kind. -/
def expect (kind : LexemeKind) : List Lexeme → Except Error (List Lexeme)
  | l :: rest =>
    if l.kind = kind then .ok rest else .error (.unexpected l.kind l.index kind)
  | [] => .error .noEnd

/-- The text of the leading characters, escaped or not, and the lexemes after them. -/
def takeText : List Lexeme → Text × List Lexeme
  | l :: rest =>
    if l.kind = .char ∨ l.kind = .escapedChar then
      (l.value ++ (takeText rest).1, (takeText rest).2)
    else ([], l :: rest)
  | [] => ([], [])

/-- What has been read of a template. -/
structure Draft where
  /-- The finished parts, last to first. -/
  done : List Part
  /-- The literal text since the last of them. -/
  pending : Text
  /-- How many patterns without name there were. -/
  unnamed : Nat

namespace Draft

/-- Nothing read yet. -/
def start : Draft := ⟨[], [], 0⟩

/-- Collect literal text. -/
def collect (d : Draft) (text : Text) : Draft :=
  { d with pending := d.pending ++ text }

/-- Finish the pending literal, unless it is empty. -/
def flush (d : Draft) : Draft :=
  if d.pending.isEmpty then d else { d with done := .literal d.pending :: d.done, pending := [] }

/-- Finish a parameter. -/
def finish (d : Draft) (p : Parameter) : Draft :=
  { d with done := .parameter p :: d.done }

/-- The next number, as the name of a pattern without name. -/
def number (d : Draft) : Text × Draft :=
  ((toString d.unnamed).toList, { d with unnamed := d.unnamed + 1 })

/-- The pattern `segment` for a parameter with the given lead, unless that would touch the parameter
before it. -/
def segmentAfter (d : Draft) (segment lead : Text) : Except Error Text :=
  match d.done with
  | .parameter p :: _ => if lead.isEmpty then .error (.adjacent p.name) else .ok segment
  | _ => .ok segment

end Draft

/-- A parameter outside braces, after the character `before` it, if there is one. -/
def readParameter (leads default : Text) (d : Draft) (before name custom : Option Text)
    (rest : List Lexeme) : Except Error (Draft × List Lexeme) := do
  let char := before.getD []
  let taken := char.all leads.contains
  let d := (if taken then d else d.collect char).flush
  let lead := if taken then char else []
  let (name, d) := match name with
    | some name => (name, d)
    | none => d.number
  let pattern ← match custom with
    | some pattern => pure pattern
    | none => d.segmentAfter default lead
  let (modifier, rest) := take? .modifier rest
  .ok (d.finish ⟨name, lead, [], pattern, modifier.getD []⟩, rest)

/-- A group in braces, after the opening brace. -/
def readGroup (default : Text) (d : Draft) (rest : List Lexeme) :
    Except Error (Draft × List Lexeme) := do
  let (lead, rest) := takeText rest
  let (name, rest) := take? .name rest
  let (custom, rest) := take? .pattern rest
  let (trail, rest) := takeText rest
  let rest ← expect .closeBrace rest
  let (name, pattern, d) ← match name, custom with
    | some name, some pattern => pure (name, pattern, d)
    | some name, none => do
      let pattern ← d.segmentAfter default lead
      pure (name, pattern, d)
    | none, some pattern => pure (d.number.1, pattern, d.number.2)
    | none, none => pure ([], [], d)
  let (modifier, rest) := take? .modifier rest
  .ok (d.finish ⟨name, lead, trail, pattern, modifier.getD []⟩, rest)

/-- Read one item: a parameter, a character, a group in braces, or the end. -/
def readItem (leads default : Text) (d : Draft) (lexemes : List Lexeme) :
    Except Error (Draft × List Lexeme) :=
  let (char, rest) := take? .char lexemes
  let (name, rest) := take? .name rest
  let (custom, rest) := take? .pattern rest
  if name.isSome ∨ custom.isSome then readParameter leads default d char name custom rest
  else
    match char with
    | some text => .ok (d.collect text, rest)
    | none =>
      match take? .escapedChar rest with
      | (some text, rest) => .ok (d.collect text, rest)
      | (none, rest) =>
        match take? .openBrace rest with
        | (some _, rest) => readGroup default d.flush rest
        | (none, rest) => (expect .finish rest).map fun rest => (d.flush, rest)

/-- Read items until no lexeme is left.  Each takes at least one lexeme, so their number is enough
`fuel`. -/
def readItems (leads default : Text) :
    (fuel : Nat) → Draft → List Lexeme → Except Error Draft
  | fuel + 1, d, l :: rest => do
    let (d, rest) ← readItem leads default d (l :: rest)
    readItems leads default fuel d rest
  | _, d, _ => .ok d

/-- Read a template. -/
def read (leads delimiter : Text) (template : Text) : Except Error Template := do
  let lexemes ← (Lexeme.scan template).mapError .scan
  let d ← readItems leads (segmentPattern delimiter) lexemes.length .start lexemes
  .ok d.done.reverse

end RouteMask.Template
