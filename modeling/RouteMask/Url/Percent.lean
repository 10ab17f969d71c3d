import RouteMask.Text.Digits
import RouteMask.Text.Utf8

/-! # Percent escapes

A byte of a URL may be written as a percent sign and two hexadecimal digits.  `Percent.encode`
escapes every byte of every character that is not declared safe; `Percent.decode` takes escapes back
and reads runs of bytes as UTF-8, replacing what is broken.  `Percent.decodeExcept` leaves the escapes
of some bytes as they are written.

Reading goes through `Octet`s: a byte to be decoded, or a character that stands for itself and ends
the run of bytes before it. -/

namespace RouteMask.Percent

/-- The characters that are safe everywhere. -/
def unreserved (c : Char) : Bool :=
  c.isAlphanum || c == '_' || c == '.' || c == '-' || c == '~'

/-- The escape of a byte. -/
def escapeByte (b : Nat) : Text :=
  ['%', Text.upperHexDigit (b / 16), Text.upperHexDigit (b % 16)]

/-- Escape all characters but the unreserved ones and those in `safe`. -/
def encode (safe : Text) (s : Text) : Text :=
  s.flatMap fun c =>
    if unreserved c || safe.contains c then [c] else (Text.encodeChar c).flatMap escapeByte

/-- A unit of decoding. -/
inductive Octet where
  | byte (b : Nat)
  | verbatim (c : Char)
deriving DecidableEq

/-- A character outside an escape: an ASCII character is its own byte, any other ends a run. -/
def plain (c : Char) : Octet :=
  if c.toNat < 128 then .byte c.toNat else .verbatim c

/-- The units of a text.  Escapes of the bytes in `keep` stand for themselves, and so do percent
signs that begin no escape. -/
def octets (keep : Nat → Bool) : Text → List Octet
  | '%' :: h :: l :: rest =>
    match Text.hexValue? h, Text.hexValue? l with
    | some m, some n =>
      if keep (m * 16 + n) then .verbatim '%' :: .verbatim h :: .verbatim l :: octets keep rest
      else .byte (m * 16 + n) :: octets keep rest
    | _, _ => plain '%' :: octets keep (h :: l :: rest)
  | c :: rest => plain c :: octets keep rest
  | [] => []

/-- Read units after a character was begun. -/
def decodeFrom (begun : Option Text.PartialChar) : List Octet → Text
  | [] => Text.abandon begun
  | .byte b :: rest => (Text.feed begun b).1 ++ decodeFrom (Text.feed begun b).2 rest
  | .verbatim c :: rest => Text.abandon begun ++ c :: decodeFrom none rest

/-- Decode all escapes except those of the bytes in `keep`. -/
def decodeExcept (keep : Nat → Bool) (s : Text) : Text :=
  decodeFrom none (octets keep s)

/-- Decode all escapes. -/
def decode (s : Text) : Text :=
  decodeExcept (fun _ => false) s

/-- The characters that delimit the parts of a URL. -/
def reserved (b : Nat) : Bool :=
  ";/?:@&=+$,#".toList.any (·.toNat == b)

/-- Decode the escapes of all but the reserved characters. -/
def decodeUnreserved (s : Text) : Text :=
  decodeExcept reserved s

end RouteMask.Percent
