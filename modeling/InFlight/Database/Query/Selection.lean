import InFlight.Database.Query.Row

/-!
# Selections

A selection asks for the values of some columns in the rows that meet conditions, with the
greatest rows first and no more than a number of them.  A condition compares a column with an
integer; one with an integer that is not positive is met by all rows.

## Main definitions

* `InFlight.Database.Condition`, `InFlight.Database.Selection` — what is asked for.
* `InFlight.Database.Relation.meets` — a row meets conditions.
* `InFlight.Database.Relation.greater?` — which of two rows comes first.
-/

set_option relaxedAutoImplicit false
set_option autoImplicit false

namespace InFlight

namespace Database

/-- A column compared with an integer, if that is positive. -/
structure Condition where
  column : Nat
  comparison : Sql.Comparison
  bound : Int

/-- Some columns of the rows that meet conditions, the greatest by some columns first, and no more
than a number of rows. -/
structure Selection where
  columns : List Nat
  conditions : List Condition
  order : List Nat
  limit : Nat

namespace Selection

/-- All columns whose values may be needed. -/
def used (s : Selection) : List Nat :=
  (s.columns ++ s.conditions.map Condition.column ++ s.order).eraseDups

/-- The columns whose values are compared. -/
def compared (s : Selection) : List Nat := s.conditions.map Condition.column ++ s.order

end Selection

namespace Table

/-- The collation of a column, if it is known. -/
def collation? (t : Table) (i : Nat) : Option Collation :=
  collationNamed? (t.columnCollation? i)

/-- What a selection asks for can be told of a table. -/
def canAnswer (t : Table) (s : Selection) : Bool :=
  (s.used.all (t.canMake (t.columns.length + 1))) &&
    s.compared.all fun i => (t.collation? i).isSome

end Table

namespace Relation

variable (r : Relation)

/-! ## Conditions -/

/-- A row meets a condition; its value is only read for a bound that is positive. -/
def meets (row : Row) (c : Condition) : Look Bool := do
  if c.bound ≤ 0 then return true
  let v ← r.value row c.column
  let collation ← (r.table.collation? c.column : Option Collation)
  let (v, w) := (r.table.columnAffinity c.column).level r.form v (.integer c.bound)
  return !v.isNull && c.comparison.holds (v.compare r.form collation w)

/-- A row meets all of some conditions. -/
def meetsAll (row : Row) : List Condition → Look Bool
  | [] => return true
  | c :: cs => do if ← r.meets row c then meetsAll row cs else return false

/-! ## Order -/

/-- The order of the values of two rows in some columns, the greatest first. -/
def rankBy : List Nat → List Value → List Value → Ordering
  | i :: is, v :: vs, w :: ws =>
    (w.compare r.form ((r.table.collation? i).getD .binary) v).then (rankBy is vs ws)
  | _, _, _ => .eq

/-- The values of a row in some columns. -/
def values (row : Row) (columns : List Nat) : Look (List Value) := columns.mapM (r.value row)

end Relation

end Database

end InFlight
