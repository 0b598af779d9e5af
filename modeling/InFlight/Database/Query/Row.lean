import InFlight.Database.Query.Evaluate
import InFlight.Database.Record
import InFlight.Database.Scan

/-!
# Rows that are looked at

The rows of a table are met in its own tree, or along one of its indexes.  A row that is met along
an index is looked up in the tree of the table as soon as a value is needed that the index does not
hold; it must be there.  Where rows have no keys of their own they are told by the columns of the
primary key, and a row that is not found by these is passed over.

A value that the row lacks, because its column came later than the row, is that of the column.
What is made from other columns is made when it is read.

## Main definitions

* `InFlight.Database.Relation` — a table with the pages that hold its rows.
* `InFlight.Database.Row`, `InFlight.Database.Relation.value?` — a row and its values.
* `InFlight.Database.Look`, `InFlight.Database.Relation.value` — reading that may look a row up.
-/

set_option relaxedAutoImplicit false
set_option autoImplicit false

namespace InFlight

namespace Database

/-- An index that has been made of what is on the pages: its name and its records in order. -/
structure MadeIndex where
  name : String
  records : List Payload

/-- A table with the pages that hold its rows, how texts are written there, and indexes that have
been made of it. -/
structure Relation where
  pages : Pages
  form : TextForm
  table : Table
  made : List MadeIndex := []

/-- An entry of an index. -/
structure Mark where
  index : Index
  record : Payload

/-- Where the value of a column stands in an entry. -/
def Mark.position? (m : Mark) (i : Nat) : Option Nat := m.index.position? (.column i)

/-- A row: its key if it has one, the entry of the index along which it was met if there is one, and
where it is stored. -/
structure Row where
  /-- None where rows have no keys, and for damage. -/
  key : Thunk (Option Int) := Thunk.pure none
  mark : Option Mark := none
  /-- Where the tree of the table holds the row; none for damage. -/
  stored : Thunk (Option Cursor)

namespace Relation

variable (r : Relation)

/-! ## Values -/

/-- The value of a column that stands at a position of a record. -/
def held? (p : Payload) (position i : Nat) : Option Value := do
  let c ← r.table.columns[i]?
  match ← r.pages.value? p position with
  | some v => return if c.affinity = .real then v.really else v
  | none => return Value.missing r.form c

/-- The record that holds a row. -/
def record? (row : Row) : Option Payload :=
  row.stored.get.map fun c => c.here.payload r.pages.usable

/-- The entry that the value of a column can be taken from when a row is met, and where it stands
there. -/
def atHand? (row : Row) (i : Nat) : Option (Payload × Nat) := do
  let m ← row.mark
  let position ← m.position? i
  if (r.table.making? i).all (r.table.canTake i) then return (m.record, position) else none

/-- The value of a column, where columns may be made from others so many times. -/
def valueWithin? (row : Row) : Nat → Nat → Option Value
  | 0, _ => none
  | left + 1, i =>
    if r.table.keyColumn = some i then row.key.get.map .integer
    else
      match r.table.making? i with
      | some e =>
        let v? := match r.atHand? row i with
          | some (p, position) => r.held? p position i
          | none =>
            let s : Surroundings :=
              { table := r.table, form := r.form, value? := valueWithin? row left }
            s.evaluate? e
        v?.map ((r.table.columnAffinity i).convert r.form)
      | none =>
        match r.atHand? row i with
        | some (p, position) => r.held? p position i
        | none => do r.held? (← r.record? row) (← r.table.slot? i) i

/-- The value of a column of a row; none for damage, and where it cannot be made. -/
def value? (row : Row) (i : Nat) : Option Value :=
  r.valueWithin? row (r.table.columns.length + 1) i

/-! ## Looking up -/

/-- The value of a column does not stand in what was met of a row. -/
def isBeyond (row : Row) : Nat → Nat → Bool
  | 0, _ => false
  | left + 1, i =>
    if r.table.keyColumn = some i || (r.atHand? row i).isSome then false
    else
      match r.table.making? i with
      | some e => (r.table.columnsIn e).any (isBeyond row left)
      | none => true

end Relation

/-- Reading values of a row, which fails for damage; it tells whether the row has been looked up. -/
abbrev Look (α : Type) := StateT Bool Option α

/-- The value of a column of a row. -/
def Relation.value (r : Relation) (row : Row) (i : Nat) : Look Value := fun lookedUp =>
  (r.value? row i).map fun v => (v, lookedUp || r.isBeyond row (r.table.columns.length + 1) i)

namespace Relation

variable (r : Relation)

/-! ## Rows of trees -/

/-- What is met of a row: nothing if the row is passed over, and where the next search may come
from. -/
structure Meeting where
  row : Option Row
  from? : Option Cursor

/-- The value at a position of an entry; what is missing is nothing. -/
def part? (p : Payload) (position : Nat) : Option Value :=
  (r.pages.value? p position).map fun v => v.getD .null

/-- How a record of an index stands to values of its first parts. -/
def order? (parts : List Part) (p : Payload) (vs : List Value) : Option Ordering :=
  (parts.zip vs).zipIdx.foldlM (fun done ((part, v), position) => do
    if done ≠ .eq then return done
    let c ← Collation.ofName? part.collation
    let o := (← r.part? p position).compare r.form c v
    return if part.backward then o.swap else o) .eq

/-- Searches a primary key for the values that an entry of another index has; none for damage. -/
def partner? (primary : Index) (m : Mark) (from? : Option Cursor) : Option (Option Finding) := do
  let vs ← primary.parts.mapM fun part => do r.part? m.record (← m.index.position? part.source)
  r.pages.findFrom? primary.root from? fun node i =>
    r.order? primary.parts (node.payload r.pages.usable i) vs

/-- The row of an entry of the tree of the table. -/
def rowOf (e : Entry) : Row :=
  { key := Thunk.pure (if r.table.keyless then none else some e.key)
    stored := Thunk.pure (some { here := e, above := [] }) }

/-- The row of a record of an index, which is looked up unless the index holds all that is asked
for.  The search may come from another row.  None for damage. -/
def rowAlong? (ix : Index) (covers : Bool) (record : Payload) (from? : Option Cursor) :
    Option Meeting := do
  let m : Mark := { index := ix, record }
  if r.table.keyless then
    if covers then return { row := some { mark := some m, stored := Thunk.pure none }, from? }
    else
      let found ← r.partner? (← r.table.primary?) m from?
      let cursor := found.map Finding.cursor
      let isThere := found.any Finding.exact
      return {
        row := if isThere then some { mark := some m, stored := Thunk.pure cursor } else none
        from? := cursor }
  else if covers then
    let key := Thunk.mk fun _ => r.pages.lastInteger? m.record
    return { row := some { key, mark := some m, stored := Thunk.pure none }, from? }
  else
    let key ← r.pages.lastInteger? m.record
    return {
      row := some {
        key := Thunk.pure (some key), mark := some m
        stored := Thunk.mk fun _ => (r.pages.seek? r.table.root key from?).join }
      from? }

/-- The entries of the tree that holds the rows. -/
def ownEntries (backward : Bool) : Series Entry :=
  if r.table.keyless then
    match r.table.primary? with
    | some ix => r.pages.entries false ix.root backward
    | none => .broken
  else r.pages.entries true r.table.root backward

/-- The records of an index. -/
def records (ix : Index) (backward : Bool) : Series Payload :=
  match r.made.find? fun m => m.name == ix.name with
  | some m => Series.ofList (Node.ordered backward m.records)
  | none =>
    (r.pages.entries false ix.root backward).mapM fun e => some (e.payload r.pages.usable)

end Relation

end Database

end InFlight
