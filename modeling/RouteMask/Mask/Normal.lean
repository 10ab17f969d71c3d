import RouteMask.Mask.Skeleton
import RouteMask.Mask.Wildcard
import RouteMask.Unicode.Decimal
import RouteMask.Url.Percent
import RouteMask.Url.Resolve

/-! # Normal form of masks

Before a mask is compiled it is resolved against a base URL (`MaskText.absolute`), its query and
fragment are cut off (`MaskText.withoutQuery`), and it is made into a template
(`MaskText.template`).  A mask that is absolute, that begins with a wildcard, or that has no base is
not resolved. -/

namespace RouteMask.MaskText

/-- Whether a character counts as a letter of a scheme: the ASCII letters, and the letters that
differ from one of them by case only. -/
def isSchemeLetter (c : Char) : Bool :=
  c.isAlpha || [0x130, 0x131, 0x17F, 0x212A].contains c.toNat

/-- Whether a character may stand in a scheme behind its first letter. -/
def isSchemeChar (c : Char) : Bool :=
  isSchemeLetter c || Unicode.isDecimal c || c == '+' || c == '-' || c == '.'

/-- Whether a mask begins with an origin: two slashes, with or without a scheme in front. -/
def isAbsolute (mask : Text) : Bool :=
  match mask with
  | '/' :: '/' :: _ => true
  | first :: rest =>
    isSchemeLetter first &&
      match rest.dropWhile isSchemeChar with
      | ':' :: '/' :: '/' :: _ => true
      | _ => false
  | [] => false

/-- The characters of a mask that are not escaped for resolving. -/
def resolvable : Text := ";,/?:@&=+$!*'()#".toList

/-- Resolve a mask against a base; escapes that it holds are left alone. -/
def absolute (mask : Text) (base : Option Text) : Except UrlError Text :=
  if isAbsolute mask || mask.head? == some '*' then .ok mask
  else
    match base with
    | none | some [] => .ok mask
    | some base => (Url.resolve base (Percent.encode resolvable mask)).map Percent.decodeUnreserved

/-- Cut off query and fragment, unless the mask ends in the mark of an optional parameter. -/
def withoutQuery (mask : Text) : Text :=
  if mask.getLast? = some '?' then mask else mask.takeWhile fun c => c != '?' && c != '#'

/-- The normal form of a mask. -/
def normalize (mask : Text) (base : Option Text) : Except UrlError Text :=
  (absolute mask base).map withoutQuery

/-- The template of a mask in normal form. -/
def template (mask : Text) : Text :=
  Skeleton.escape (Wildcard.expand mask)

end RouteMask.MaskText
