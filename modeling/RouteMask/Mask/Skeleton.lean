import RouteMask.Text
import RouteMask.Unicode.Blank

/-! # Structural colons

In a template a colon begins a parameter, so the colons that belong to the structure of a URL have to
be escaped: the one behind the scheme, those of an address in brackets, and the one in front of the
port.  `Skeleton.find?` looks for the structure, a scheme, an address, a port and a path up to the end
of the text; `Skeleton.escape` escapes its colons.

* The scheme is recognised only at the beginning of the text.  When the text behind it has no
  structure, the structure is looked for further on, without scheme.
* An address does not end in a colon and one to five digits, which would be a port. -/

namespace RouteMask

/-- The host part of a mask. -/
inductive HostMask where
  /-- Hexadecimal digits and colons in brackets. -/
  | bracketed (address : Text)
  | plain (text : Text)
deriving DecidableEq

/-- The structure of a mask. -/
structure Skeleton where
  scheme : Text
  host : HostMask
  /-- The port with its colon, or nothing. -/
  port : Text
  path : Text
deriving DecidableEq

/-- The text of a host. -/
def HostMask.text : HostMask → Text
  | .bracketed address => '[' :: address ++ [']']
  | .plain text => text

namespace Skeleton

/-- The text of a structure. -/
def text (s : Skeleton) : Text :=
  s.scheme ++ s.host.text ++ s.port ++ s.path

/-! ### Escaping -/

/-- Put a backslash before every colon. -/
def escapeColons (s : Text) : Text :=
  s.flatMap fun c => if c = ':' then ['\\', ':'] else [c]

/-- Put a backslash before the first colon. -/
def escapeFirstColon : Text → Text
  | [] => []
  | c :: rest => if c = ':' then '\\' :: ':' :: rest else c :: escapeFirstColon rest

/-- The host with its structural colons escaped. -/
def escapedHost : HostMask → Text
  | .bracketed address => escapeColons (HostMask.text (.bracketed address))
  | .plain text => text

/-- The text of a structure with its colons escaped. -/
def escaped (s : Skeleton) : Text :=
  escapeFirstColon s.scheme ++ escapedHost s.host ++ escapeColons s.port ++ s.path

/-! ### Recognising -/

/-- The most digits of a port. -/
def maxPortLength : Nat := 5

/-- Whether a number of digits can be a port. -/
def isPortLength (n : Nat) : Bool :=
  0 < n && n ≤ maxPortLength

/-- Whether a character may stand in a host without brackets. -/
def isHostChar (c : Char) : Bool :=
  c != '/' && c != '[' && c != ']' && !Unicode.isBlank c

/-- Whether a character may stand in a segment of a path. -/
def isSegmentChar (c : Char) : Bool :=
  c != '/' && !Unicode.isBlank c

/-- Whether a character may stand in an address in brackets. -/
def isAddressChar (c : Char) : Bool :=
  c.isDigit || ('a' ≤ c && c ≤ 'f') || c == ':'

/-- Whether a text is a path: nothing, a slash, or segments with a slash in front of each. -/
def isPath (s : Text) : Bool :=
  match s with
  | [] => true
  | c :: rest =>
    c == '/' && (rest.isEmpty ||
      (Text.splitOn ['/'] rest).all fun segment => !segment.isEmpty && segment.all isSegmentChar)

/-- The port at the beginning of a text, if there is one, and what follows it. -/
def splitPort (s : Text) : Text × Text :=
  match s with
  | ':' :: rest =>
    let digits := rest.takeWhile Char.isDigit
    if isPortLength digits.length then (':' :: digits, rest.dropWhile Char.isDigit) else ([], s)
  | _ => ([], s)

/-- The port at the end of a text that is given backwards, and what stands before it, backwards. -/
def splitLastPort (reversed : Text) : Text × Text :=
  let digits := reversed.takeWhile Char.isDigit
  match reversed.dropWhile Char.isDigit with
  | ':' :: before => if isPortLength digits.length then (':' :: digits.reverse, before) else ([], reversed)
  | _ => ([], reversed)

/-- A host in brackets at the beginning of a text, with the port and the path behind it. -/
def bracketedAt? (scheme s : Text) : Option Skeleton :=
  match s with
  | '[' :: inside =>
    let address := inside.takeWhile isAddressChar
    match inside.dropWhile isAddressChar with
    | ']' :: rest =>
      let (port, path) := splitPort rest
      if !address.isEmpty && isPath path then some ⟨scheme, .bracketed address, port, path⟩ else none
    | _ => none
  | _ => none

/-- A host without brackets at the beginning of a text, with the port and the path behind it;
`behind` is the text in front of it, backwards. -/
def plainAt? (scheme behind s : Text) : Option Skeleton :=
  let (port, host) := splitLastPort (s.takeWhile isHostChar).reverse
  let path := s.dropWhile isHostChar
  if !host.isEmpty && (splitLastPort (host ++ behind)).1.isEmpty && isPath path then
    some ⟨scheme, .plain host.reverse, port, path⟩
  else none

/-- The structure at the beginning of a text. -/
def at? (scheme behind s : Text) : Option Skeleton :=
  (bracketedAt? scheme s).or (plainAt? scheme behind s)

/-- The scheme at the beginning of a text with its slashes, and what follows it. -/
def splitScheme? (s : Text) : Option (Text × Text) :=
  match s with
  | '/' :: '/' :: rest => some (['/', '/'], rest)
  | _ =>
    let name := s.takeWhile isSegmentChar
    match s.dropWhile isSegmentChar with
    | '/' :: '/' :: rest =>
      if name.getLast? = some ':' && 1 < name.length then some (name ++ ['/', '/'], rest) else none
    | _ => none

/-- The first structure without scheme, with the text in front of it; `behind` is what has been
passed already, backwards. -/
def findFrom? (behind : Text) : Text → Option (Text × Skeleton)
  | [] => none
  | c :: rest =>
    match at? [] behind (c :: rest) with
    | some found => some ([], found)
    | none => (findFrom? (c :: behind) rest).map fun (before, found) => (c :: before, found)

/-- The structure of a mask, with the text in front of it. -/
def find? (mask : Text) : Option (Text × Skeleton) :=
  match splitScheme? mask with
  | some (scheme, rest) =>
    match at? scheme scheme.reverse rest with
    | some found => some ([], found)
    | none => findFrom? [] mask
  | none => findFrom? [] mask

/-- Escape the structural colons of a mask. -/
def escape (mask : Text) : Text :=
  match find? mask with
  | some (before, found) => before ++ found.escaped
  | none => mask

end Skeleton

end RouteMask
