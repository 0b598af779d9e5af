/-!
# Costs

The costs of ways to the same end are only estimated, so they are kept as tenths of their binary
logarithms.  Numbers are rounded down to one of eight steps between each two powers of two.

## Main definitions

* `InFlight.Database.Cost`, `InFlight.Database.Cost.ofCount` — a cost, and that of so many steps.
* `InFlight.Database.Cost.plus` — the cost of one thing after another.
-/

set_option relaxedAutoImplicit false
set_option autoImplicit false

namespace InFlight

namespace Database

/-- A cost, in tenths of its binary logarithm. -/
abbrev Cost := Int

namespace Cost

/-- The tenths of the eight steps between two powers of two. -/
def steps : List Nat := [0, 2, 3, 5, 6, 7, 8, 9]

/-- The cost of so many steps. -/
def ofCount (n : Nat) : Cost :=
  if n < 2 then 0
  else 10 * Nat.log2 n + steps.getD (8 * n / Nat.pow 2 (Nat.log2 n) - 8) 0

/-- Above which differences the greater of two costs grows by so many tenths less than ten when the
other is added. -/
def marks : List Nat := [1, 3, 5, 8, 11, 14, 18, 24, 31, 49]

/-- How much a cost grows when one that is so much less is added. -/
def growth (difference : Nat) : Nat := 10 - marks.countP fun mark => decide (mark < difference)

/-- The cost of one thing after another. -/
def plus (a b : Cost) : Cost := max a b + growth (max a b - min a b).toNat

/-- The order of two things does not matter for their cost. -/
theorem plus_comm (a b : Cost) : plus a b = plus b a := by
  simp [plus, Int.max_comm, Int.min_comm]

/-- How much the cost of sorting exceeds that of going through so many rows. -/
def ofSteps (rows : Cost) : Cost := if rows ≤ 10 then 0 else ofCount rows.toNat - 33

end Cost

end Database

end InFlight
