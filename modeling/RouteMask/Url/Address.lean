import RouteMask.Text.Digits
import RouteMask.Url.Error

/-! # Addresses in brackets

The host of a URL may be an address in brackets.  `Address.isIPv4` and `Address.isIPv6` recognise the
two written forms, and `Address.check` accepts what may stand in brackets: an IPv6 address, or an
address of a future version. -/

namespace RouteMask.Address

/-- A decimal number below 256 without leading zeros. -/
def isOctet (s : Text) : Bool :=
  !s.isEmpty && s.all Char.isDigit && s.length ≤ 3 && (s == ['0'] || s.head? != some '0') &&
    Text.decimalValue s ≤ 255

/-- Four numbers separated by dots. -/
def isIPv4 (s : Text) : Bool :=
  let parts := Text.splitOn ['.'] s
  parts.length == 4 && parts.all isOctet

/-- One to four hexadecimal digits. -/
def isHextet (s : Text) : Bool :=
  !s.isEmpty && s.all Text.isHexDigit && s.length ≤ 4

/-- Whether the groups around a gap of zeros are well formed.  On the outer side of the gap there is
either nothing but the empty group of a doubled colon, or groups only. -/
def isSide (outermost : Text) (groups : List Text) : Bool :=
  if outermost.isEmpty then groups.length == 1 else groups.all isHextet

/-- The number of groups that a side really has. -/
def sideLength (outermost : Text) (groups : List Text) : Nat :=
  if outermost.isEmpty then groups.length - 1 else groups.length

/-- Whether groups make up an address of eight of them.  One empty group inside stands for as many
zeros as are missing, at least one. -/
def areGroups (groups : List Text) : Bool :=
  match groups, groups.getLast? with
  | first :: _, some last =>
    let inner := (groups.drop 1).dropLast
    match inner.findIdx? List.isEmpty with
    | none => groups.length == 8 && groups.all isHextet
    | some i =>
      let before := groups.take (i + 1)
      let after := groups.drop (i + 2)
      !(inner.drop (i + 1)).any List.isEmpty && isSide first before && isSide last after &&
        sideLength first before + sideLength last after ≤ 7
  | _, _ => false

/-- Groups of hexadecimal digits separated by colons, at most nine with the empty ones; the last may
be an IPv4 address, which counts as two.  A zone may follow after a percent sign. -/
def isIPv6 (s : Text) : Bool :=
  let (address, zoneOk) := match Text.cut? (· == '%') s with
    | some (address, zone) => (address, !zone.isEmpty && !zone.contains '%')
    | none => (s, true)
  let parts := Text.splitOn [':'] address
  let last := parts.getLast?.getD []
  let groups :=
    if last.contains '.' then
      if isIPv4 last then some (parts.dropLast ++ [['0'], ['0']]) else none
    else some parts
  zoneOk && 3 ≤ parts.length &&
    match groups with
    | some groups => groups.length ≤ 9 && areGroups groups
    | none => false

/-- The form of an address of a future version: a version in hexadecimal digits, a dot and more. -/
def isFuture (s : Text) : Bool :=
  match s with
  | 'v' :: rest =>
    match rest.dropWhile Text.isHexDigit with
    | '.' :: more => Text.isHexDigit (rest.head?.getD '.') && !more.isEmpty && !more.contains '\n'
    | _ => false
  | _ => false

/-- Check what stands in brackets. -/
def check (host : Text) : Except UrlError Unit :=
  if host.head? = some 'v' then
    if isFuture host then .ok () else .error .futureAddress
  else if isIPv4 host then .error .bracketedIPv4
  else if isIPv6 host then .ok ()
  else .error (.address host)

end RouteMask.Address
