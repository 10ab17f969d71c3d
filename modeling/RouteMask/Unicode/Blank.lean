import RouteMask.Unicode.Ranges

/-! # Blank characters

White space in the sense of text processing: the separators of Unicode, the blank control
characters and the information separators `0x1C` to `0x1F`. -/

namespace RouteMask.Unicode

/-- The blank code points. -/
def blanks : Ranges := [
  (0x9, 0xD), (0x1C, 0x20), (0x85, 0x85), (0xA0, 0xA0), (0x1680, 0x1680), (0x2000, 0x200A),
  (0x2028, 0x2029), (0x202F, 0x202F), (0x205F, 0x205F), (0x3000, 0x3000)]

/-- Whether a character is blank. -/
def isBlank (c : Char) : Bool :=
  blanks.has c.toNat

end RouteMask.Unicode
