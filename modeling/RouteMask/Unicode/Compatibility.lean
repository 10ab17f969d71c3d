import RouteMask.Unicode.Ranges

/-! # Characters that hide a delimiter

Some characters turn into text with one of the URL delimiters `/ ? # @ :` under compatibility
normalisation: full-width forms, "care of" signs and the like.  `hidesDelimiter` recognises them.
No such character is ASCII (`hidesDelimiter_ascii`). -/

namespace RouteMask.Unicode

/-- The non-ASCII code points whose compatibility form holds one of `/ ? # @ :`. -/
def delimiterLookalikes : Ranges := [
  (0x2047, 0x2049), (0x2100, 0x2101), (0x2105, 0x2106), (0x2A74, 0x2A74), (0xFE13, 0xFE13),
  (0xFE16, 0xFE16), (0xFE55, 0xFE56), (0xFE5F, 0xFE5F), (0xFE6B, 0xFE6B), (0xFF03, 0xFF03),
  (0xFF0F, 0xFF0F), (0xFF1A, 0xFF1A), (0xFF1F, 0xFF20)]

/-- Whether the compatibility form of a character other than the delimiters holds a delimiter. -/
def hidesDelimiter (c : Char) : Bool :=
  delimiterLookalikes.has c.toNat

theorem hidesDelimiter_ascii {c : Char} (h : c.toNat < 128) : hidesDelimiter c = false := by
  rw [hidesDelimiter, Bool.eq_false_iff]
  intro hc
  obtain ⟨r, hr, h₁, -⟩ := Ranges.has_iff.mp hc
  have : ∀ r ∈ delimiterLookalikes, 128 ≤ r.1 := by decide
  exact absurd (this r hr) (by omega)

end RouteMask.Unicode
