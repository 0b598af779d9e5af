import InFlight.Database.Query.Answer
import InFlight.Database.Schema.Definition

/-!
# Making indexes

An index is made of all rows of its table: for each of them a record with the values that the index
sorts by and what tells the row.  The records are put into the order of the index.

## Main definitions

* `InFlight.Database.Relation.withIndex?` — a table with one index more.
-/

set_option relaxedAutoImplicit false
set_option autoImplicit false

namespace InFlight

namespace Database

namespace Payload

/-- A record that stands by itself. -/
def ofValues (vs : List Value) : Payload :=
  let bytes := writeRecord vs
  { page := ⟨bytes.toArray⟩, start := 0, length := bytes.length, held := bytes.length
    isRow := false }

end Payload

namespace Relation

variable (r : Relation)

/-- What an index holds of a row; the numbers of a column of numbers are kept as integers where they
are. -/
def partOf? (row : Row) (part : Part) : Option Value :=
  match part.source with
  | .column i =>
    (r.value? row i).map fun v => if (r.table.columnAffinity i).isNumeric then v.wholly else v
  | .key => row.key.get.map .integer
  | .expr => none

/-- The order of what an index holds of two rows, by parts that it begins with. -/
def compareHeld : List Part → List Value → List Value → Ordering
  | part :: parts, v :: vs, w :: ws =>
    let o := v.compare r.form ((Collation.ofName? part.collation).getD .binary) w
    (if part.backward then o.swap else o).then (compareHeld parts vs ws)
  | _, _, _ => .eq

/-- The records of an index in order; those that are alike in what it sorts by stay in the order of
the rows.  None for damage. -/
def recordsFor? (ix : Index) : Option (List Payload) := do
  let held ← ((r.ownEntries false).mapM fun e => ix.held.mapM (r.partOf? (r.rowOf e))).toList?
  return (held.mergeSort fun vs ws => r.compareHeld ix.parts vs ws != .gt).map Payload.ofValues

/-- A table with one index more, made of its rows; none where it cannot be made. -/
def withIndex? (ix : Index) : Option Relation := do
  if !Table.isKnown ix then none
  if !(ix.held.all fun part =>
      match part.source with
      | .column i => r.table.canMake (r.table.columns.length + 1) i
      | _ => true) then
    none
  let records ← r.recordsFor? ix
  return { r with
    table := r.table.withIndex ix
    made := { name := ix.name, records } :: r.made }

end Relation

end Database

end InFlight
