import RouteMask.Regex.CharSet
import RouteMask.Regex.Escape

/-! # Character classes

Readers for the parts of a regular expression that denote a set of characters.

* `readUnicodeClass`: a general category or script, `\pN` or `\p{Name}`.
* `readBracket`: a class in square brackets.

With `ignoreCase` each part of a class is closed under change of case before complements are
taken. -/

namespace RouteMask.Regex

/-- The name of a Unicode class, after the letter that introduces it: one character, or a name in
braces. -/
def readClassName (start : Text) : Text → Except SyntaxError (Text × Text)
  | [] => .ok ([], [])
  | '\x7b' :: rest =>
    match Text.cut? (· == '\x7d') rest with
    | some (name, rest) => .ok (name, rest)
    | none => .error ⟨.characterClass, start⟩
  | c :: rest => .ok ([c], rest)

/-- The Unicode class at `start`; `positive` says which letter introduced it, and `body` stands
after that letter. -/
def readUnicodeClass (ignoreCase positive : Bool) (start body : Text) :
    Except SyntaxError (CharSet × Text) := do
  let (name, rest) ← readClassName start body
  let (name, positive) := match name with
    | '^' :: plain => (plain, !positive)
    | plain => (plain, positive)
  match CharSet.unicodeClass? name with
  | some rs => .ok (.signed ignoreCase positive (.ranges rs), rest)
  | none => .error ⟨.characterClass, Text.upTo start rest⟩

/-- The name of a class that is written between `[:` and `:]`, when the closing mark is there. -/
def cutPosixName? : Text → Option (Text × Text)
  | ':' :: ']' :: rest => some ([], rest)
  | c :: rest => (cutPosixName? rest).map fun (name, rest) => (c :: name, rest)
  | [] => none

/-- One member of a bracketed class that is read as a code point.  `whole` is the text from the
opening bracket on. -/
def readMember (whole : Text) : Text → Except SyntaxError (Nat × Text)
  | [] => .error ⟨.missingBracket, whole⟩
  | '\\' :: body => readEscape ('\\' :: body) body
  | c :: rest => .ok (c.toNat, rest)

/-- A code point or a range of them. -/
def readRange (whole s : Text) : Except SyntaxError ((Nat × Nat) × Text) := do
  let (lo, rest) ← readMember whole s
  match rest with
  | '-' :: c :: more =>
    if c = ']' then .ok ((lo, lo), rest)
    else
      let (hi, rest) ← readMember whole (c :: more)
      if hi < lo then .error ⟨.characterClass, Text.upTo s rest⟩ else .ok ((lo, hi), rest)
  | _ => .ok ((lo, lo), rest)

/-- A code point or a range of them, as a set. -/
def readRangeSet (ignoreCase : Bool) (whole s : Text) : Except SyntaxError (CharSet × Text) := do
  let (range, rest) ← readRange whole s
  .ok (.closed ignoreCase (.ranges [range]), rest)

/-- One item of a bracketed class: a named class, a shorthand, a Unicode class, or a range. -/
def readItem (ignoreCase : Bool) (whole s : Text) : Except SyntaxError (CharSet × Text) :=
  match s with
  | '[' :: ':' :: body =>
    match cutPosixName? body with
    | some (name, rest) =>
      match CharSet.posixClass? name with
      | some (rs, positive) => .ok (.signed ignoreCase positive (.ranges rs), rest)
      | none => .error ⟨.characterClass, Text.upTo s rest⟩
    | none => readRangeSet ignoreCase whole s
  | '\\' :: c :: body =>
    if (c = 'p' ∨ c = 'P') ∧ body ≠ [] then readUnicodeClass ignoreCase (c == 'p') s body
    else
      match CharSet.shorthand? c with
      | some (rs, positive) => .ok (.signed ignoreCase positive (.ranges rs), body)
      | none => readRangeSet ignoreCase whole s
  | _ => readRangeSet ignoreCase whole s

/-- The items of a bracketed class up to its closing bracket, joined to `acc`.  A closing bracket
in the `first` place is an item.  An item is at least one character long, so the length of the text
is enough `fuel`. -/
def readItems (ignoreCase : Bool) (whole : Text) :
    (fuel : Nat) → (first : Bool) → CharSet → Text → Except SyntaxError (CharSet × Text)
  | fuel + 1, first, acc, c :: rest =>
    if c = ']' ∧ first = false then .ok (acc, rest)
    else do
      let (item, rest) ← readItem ignoreCase whole (c :: rest)
      readItems ignoreCase whole fuel false (.union acc item) rest
  | _, _, _, _ => .error ⟨.missingBracket, whole⟩

/-- A class in square brackets, after the opening bracket. -/
def readBracket (ignoreCase : Bool) (body : Text) : Except SyntaxError (CharSet × Text) :=
  match body with
  | '^' :: items => do
    let (set, rest) ← readItems ignoreCase ('[' :: body) (items.length + 1) true .none items
    .ok (.compl set, rest)
  | items => readItems ignoreCase ('[' :: body) (items.length + 1) true .none items

end RouteMask.Regex
