/-! # Sets of code points

Tables of character properties are lists of inclusive ranges of code points.  Membership is
`Ranges.has`; `Ranges.has_iff` says that a code point is in a table exactly when one of its ranges
covers it. -/

namespace RouteMask.Unicode

/-- A set of code points, as inclusive ranges. -/
abbrev Ranges := List (Nat × Nat)

/-- Whether one of the ranges covers the code point. -/
def Ranges.has (rs : Ranges) (n : Nat) : Bool :=
  rs.any fun r => r.1 ≤ n && n ≤ r.2

theorem Ranges.has_iff {rs : Ranges} {n : Nat} :
    rs.has n = true ↔ ∃ r ∈ rs, r.1 ≤ n ∧ n ≤ r.2 := by
  simp [Ranges.has]

end RouteMask.Unicode
