import RouteMask.Text.Case
import RouteMask.Unicode.Compatibility
import RouteMask.Url.Address

/-! # URLs

The five parts of a URL, how a text is split into them (`Url.parse`) and put together again
(`Url.render`), and the host and port inside the authority. -/

namespace RouteMask

/-- The parts of a URL. -/
structure Url where
  scheme : Text
  authority : Text
  path : Text
  query : Text
  fragment : Text
deriving DecidableEq

namespace Url

/-! ### Splitting -/

/-- Drop leading control characters and spaces, and every tab, carriage return and line feed. -/
def tidy (s : Text) : Text :=
  (s.dropWhile fun c => c.toNat ≤ 0x20).filter fun c => c != '\t' && c != '\r' && c != '\n'

/-- Whether a character may stand in a scheme. -/
def isSchemeChar (c : Char) : Bool :=
  c.isAlphanum || c == '+' || c == '-' || c == '.'

/-- The scheme in lower case and what follows its colon, when the text begins with a scheme. -/
def splitScheme? (s : Text) : Option (Text × Text) :=
  match Text.cut? (· == ':') s with
  | some (scheme, rest) =>
    if (scheme.head?.map Char.isAlpha).getD false && scheme.all isSchemeChar then
      some (scheme.map Char.toLower, rest)
    else none
  | none => none

/-- Whether a character ends the authority. -/
def endsAuthority (c : Char) : Bool :=
  c == '/' || c == '?' || c == '#'

/-- The text between the first opening bracket and the first closing bracket after it. -/
def bracketed (authority : Text) : Text :=
  ((authority.dropWhile (· != '[')).drop 1).takeWhile (· != ']')

/-- Check the brackets of an authority and the address in them. -/
def checkBrackets (authority : Text) : Except UrlError Unit :=
  if authority.contains '[' then
    if authority.contains ']' then Address.check (bracketed authority) else .error .brackets
  else if authority.contains ']' then .error .brackets
  else .ok ()

/-- Check that no character of an authority hides a delimiter. -/
def checkHidden (authority : Text) : Except UrlError Unit :=
  if authority.any Unicode.hidesDelimiter then .error (.hiddenDelimiter authority) else .ok ()

/-- The authority after two slashes, and what follows it. -/
def splitAuthority : Text → Text × Text
  | '/' :: '/' :: rest => (rest.takeWhile (!endsAuthority ·), rest.dropWhile (!endsAuthority ·))
  | s => ([], s)

/-- The text before and after the first `mark`; nothing after if there is none. -/
def splitMark (mark : Char) (s : Text) : Text × Text :=
  (Text.cut? (· == mark) s).getD (s, [])

/-- Split a text into the parts of a URL; one without scheme gets the given one. -/
def parse (defaultScheme : Text) (s : Text) : Except UrlError Url := do
  let s := tidy s
  let (scheme, s) := (splitScheme? s).getD (defaultScheme, s)
  let (authority, s) := splitAuthority s
  checkBrackets authority
  let (s, fragment) := splitMark '#' s
  let (path, query) := splitMark '?' s
  checkHidden authority
  .ok ⟨scheme, authority, path, query, fragment⟩

/-! ### Putting together -/

/-- The schemes whose URLs have an authority. -/
def authoritySchemes : List Text :=
  ["", "ftp", "http", "gopher", "nntp", "telnet", "imap", "wais", "file", "mms", "https", "shttp",
    "snews", "prospero", "rtsp", "rtsps", "rtspu", "rsync", "svn", "svn+ssh", "sftp", "nfs", "git",
    "git+ssh", "ws", "wss"].map String.toList

/-- The authority and the path, with two slashes in front where they are needed. -/
def renderPlace (u : Url) : Text :=
  if !u.authority.isEmpty || (!u.scheme.isEmpty && authoritySchemes.contains u.scheme) ||
      u.path.take 2 == ['/', '/'] then
    '/' :: '/' :: u.authority ++
      (if !u.path.isEmpty && u.path.head? != some '/' then '/' :: u.path else u.path)
  else u.path

/-- A part behind its mark, unless it is empty. -/
def renderPart (mark : Char) (part : Text) : Text :=
  if part.isEmpty then [] else mark :: part

/-- The text of a URL. -/
def render (u : Url) : Text :=
  (if u.scheme.isEmpty then [] else u.scheme ++ [':']) ++ renderPlace u ++
    renderPart '?' u.query ++ renderPart '#' u.fragment

/-! ### Host and port -/

/-- The text after the last at sign. -/
def withoutUser (authority : Text) : Text :=
  (authority.reverse.takeWhile (· != '@')).reverse

/-- The host and the text of the port, which is empty when there is none. -/
def hostAndPort (authority : Text) : Text × Text :=
  let place := withoutUser authority
  match Text.cut? (· == '[') place with
  | some (_, inside) =>
    let (host, rest) := splitMark ']' inside
    (host, (splitMark ':' rest).2)
  | none => splitMark ':' place

/-- The host in lower case.  The zone of an address, after a percent sign, keeps its case. -/
def host (u : Url) : Text :=
  let host := (hostAndPort u.authority).1
  Text.lower (host.takeWhile (· != '%')) ++ host.dropWhile (· != '%')

/-- The port, if there is one. -/
def port? (u : Url) : Except UrlError (Option Nat) :=
  let port := (hostAndPort u.authority).2
  if port.isEmpty then .ok none
  else if !port.all Char.isDigit then .error (.portText port)
  else if maxPortDigits < port.length then .error (.portDigits port.length)
  else if 65535 < Text.decimalValue port then .error .portRange
  else .ok (some (Text.decimalValue port))

end Url

end RouteMask
