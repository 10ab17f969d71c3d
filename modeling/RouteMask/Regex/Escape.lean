import RouteMask.Regex.Error
import RouteMask.Text.Digits

/-! # Escape sequences

Readers for the pieces of a regular expression that stand for one code point or for a pair of
repetition counts.  Each takes the text from where the piece starts and gives its value and the rest.

* `readEscape`: a backslash and what follows it, standing for one code point.
* `readCounts?`: the counts of `{n}`, `{n,}` and `{n,m}`, after the opening brace. -/

namespace RouteMask.Regex

/-- The greatest code point. -/
def maxCodePoint : Nat := 0x10FFFF

/-- The value of an octal digit. -/
def octalDigit? (c : Char) : Option Nat :=
  if '0' ≤ c ∧ c ≤ '7' then some (c.toNat - 48) else none

/-- The escape sequence that starts at `start` and has been read up to `rest` is refused. -/
def refuseEscape {α : Type} (start rest : Text) : Except SyntaxError α :=
  .error ⟨.escape, Text.upTo start rest⟩

/-- The digits of a code point in braces, after `digits` of them have given `code`. -/
def readBraced (start : Text) (code digits : Nat) : Text → Except SyntaxError (Nat × Text)
  | [] => if digits = 0 then .error ⟨.encoding, []⟩ else refuseEscape start []
  | c :: rest =>
    match Text.hexValue? c with
    | some d =>
      if maxCodePoint < code * 16 + d then refuseEscape start rest
      else readBraced start (code * 16 + d) (digits + 1) rest
    | none => if c = '\x7d' ∧ 0 < digits then .ok (code, rest) else refuseEscape start rest

/-- A code point by its hexadecimal digits: two, or any number in braces. -/
def readHex (start : Text) : Text → Except SyntaxError (Nat × Text)
  | [] => refuseEscape start []
  | '\x7b' :: rest => readBraced start 0 0 rest
  | [_] => refuseEscape start []
  | c :: d :: rest =>
    match Text.hexValue? c, Text.hexValue? d with
    | some m, some n => .ok (m * 16 + n, rest)
    | _, _ => refuseEscape start rest

/-- At most `limit` more octal digits. -/
def readOctal : (limit code : Nat) → Text → Nat × Text
  | limit + 1, code, c :: rest =>
    match octalDigit? c with
    | some d => readOctal limit (code * 8 + d) rest
    | none => (code, c :: rest)
  | _, code, rest => (code, rest)

/-- The code point of a letter that stands for a control character. -/
def controlLetter? : Char → Option Nat
  | 'a' => some 7
  | 'f' => some 12
  | 'n' => some 10
  | 'r' => some 13
  | 't' => some 9
  | 'v' => some 11
  | _ => none

/-- Whether a backslash before the character makes it stand for itself. -/
def escapable (c : Char) : Bool :=
  c.toNat < 128 && !c.isAlphanum

/-- The escape sequence at `start`, whose backslash is followed by `body`. -/
def readEscape (start body : Text) : Except SyntaxError (Nat × Text) :=
  match body with
  | [] => .error ⟨.trailingBackslash, []⟩
  | 'x' :: rest => readHex start rest
  | c :: rest =>
    if escapable c then .ok (c.toNat, rest)
    else
      match controlLetter? c with
      | some n => .ok (n, rest)
      | none =>
        match octalDigit? c, rest with
        | some 0, _ => .ok (readOctal 2 0 rest)
        | some d, e :: _ =>
          if (octalDigit? e).isSome then .ok (readOctal 2 d rest) else refuseEscape start rest
        | _, _ => refuseEscape start rest

/-! ### Repetition counts -/

/-- A count of at most nine digits without leading zero. -/
def readCount? (s : Text) : Option (Nat × Text) :=
  let digits := s.takeWhile Char.isDigit
  if digits.isEmpty || 9 < digits.length || (digits.head? == some '0' && 1 < digits.length) then none
  else some (Text.decimalValue digits, s.dropWhile Char.isDigit)

/-- The counts of a repetition in braces, after the opening brace: the least and the greatest
number, the latter absent when there is no bound. -/
def readCounts? (s : Text) : Option ((Nat × Option Nat) × Text) :=
  match readCount? s with
  | some (lo, '\x7d' :: rest) => some ((lo, some lo), rest)
  | some (lo, ',' :: '\x7d' :: rest) => some ((lo, none), rest)
  | some (lo, ',' :: more) =>
    match readCount? more with
    | some (hi, '\x7d' :: rest) => some ((lo, some hi), rest)
    | _ => none
  | _ => none

end RouteMask.Regex
