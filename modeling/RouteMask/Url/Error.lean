import RouteMask.Text.CodePoint

/-! # Faults in a URL

What can be wrong with the authority of a URL: its brackets, the address in them, characters that
hide a delimiter, and the port.  `UrlError.message` is the wording.  It shows a part of the URL, and so
it may hold surrogates where the URL does. -/

namespace RouteMask

/-- What is wrong with a URL. -/
inductive UrlError where
  /-- One bracket without the other. -/
  | brackets
  /-- An address of a future version is malformed. -/
  | futureAddress
  /-- The text in brackets is no address. -/
  | address (host : RawText)
  /-- An IPv4 address stands in brackets. -/
  | bracketedIPv4
  /-- The authority hides a delimiter. -/
  | hiddenDelimiter (authority : RawText)
  /-- The port is no number. -/
  | portText (port : RawText)
  /-- The port has too many digits to be read. -/
  | portDigits (digits : Nat)
  /-- The port is too large. -/
  | portRange
deriving DecidableEq

/-- The most digits that a number may have. -/
def maxPortDigits : Nat := 4300

namespace UrlError

/-- The same fault, with the part of the URL that it shows read in another way. -/
def mapShown (read : RawText → RawText) : UrlError → UrlError
  | .address host => .address (read host)
  | .hiddenDelimiter authority => .hiddenDelimiter (read authority)
  | .portText port => .portText (read port)
  | e => e

/-- The wording of an error. -/
def message : UrlError → RawText
  | .brackets => "Invalid IPv6 URL".toList
  | .futureAddress => "IPvFuture address is invalid".toList
  | .address host => host.quoted ++ " does not appear to be an IPv4 or IPv6 address".toList
  | .bracketedIPv4 => "An IPv4 address cannot be in brackets".toList
  | .hiddenDelimiter authority =>
    RawText.ofText "netloc '".toList ++ authority ++
      RawText.ofText "' contains invalid characters under NFKC normalization".toList
  | .portText port => "Port could not be cast to integer value as ".toList ++ port.quoted
  | .portDigits digits =>
    (s!"Exceeds the limit ({maxPortDigits} digits) for integer string conversion: " ++
      s!"value has {digits} digits; use sys.set_int_max_str_digits() to increase the limit").toList
  | .portRange => "Port out of range 0-65535".toList

end UrlError

end RouteMask
