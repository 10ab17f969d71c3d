import RouteMask.Text.Digits
import RouteMask.Text.Utf8
import RouteMask.Unicode.Printable

/-! # Quoted text

How messages show a text, or the bytes of a text: in single quotes, or in double quotes when the text
holds single quotes and no double ones; with backslashes, quotes and whatever cannot be printed
written as escape sequences.

* `Text.quoted` shows characters, `Text.quotedBytes` shows bytes behind a `b`. -/

namespace RouteMask.Text

/-- The last `width` hexadecimal digits of a number. -/
def hexDigits : (width n : Nat) → Text
  | 0, _ => []
  | width + 1, n => hexDigits width (n / 16) ++ [hexDigit (n % 16)]

/-- The quotation mark that a text is shown in. -/
def quoteMark (s : Text) : Char :=
  if s.contains '\'' && !s.contains '"' then '"' else '\''

/-- A character as it is shown between the marks `mark`. -/
def quotedChar (mark c : Char) : Text :=
  if c = mark ∨ c = '\\' then ['\\', c]
  else if c = '\n' then ['\\', 'n']
  else if c = '\r' then ['\\', 'r']
  else if c = '\t' then ['\\', 't']
  else if Unicode.isPrintable c then [c]
  else if c.toNat < 0x100 then '\\' :: 'x' :: hexDigits 2 c.toNat
  else if c.toNat < 0x10000 then '\\' :: 'u' :: hexDigits 4 c.toNat
  else '\\' :: 'U' :: hexDigits 8 c.toNat

/-- A text as messages show it. -/
def quoted (s : Text) : Text :=
  quoteMark s :: s.flatMap (quotedChar (quoteMark s)) ++ [quoteMark s]

/-- A byte as it is shown between the marks `mark`. -/
def quotedByte (mark : Char) (b : Nat) : Text :=
  if 0x20 ≤ b ∧ b < 0x7F ∨ b = 9 ∨ b = 10 ∨ b = 13 then quotedChar mark (Char.ofNat b)
  else '\\' :: 'x' :: hexDigits 2 b

/-- The bytes of a text as messages show them. -/
def quotedBytes (s : Text) : Text :=
  'b' :: quoteMark s :: (s.flatMap encodeChar).flatMap (quotedByte (quoteMark s)) ++ [quoteMark s]

end RouteMask.Text
