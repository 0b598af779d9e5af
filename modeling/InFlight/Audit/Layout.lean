import InFlight.Audit.Store
import InFlight.Database.File
import InFlight.Database.Query.Make

/-!
# The layout of a history file

The table of a history is kept in a database file, with an index by account and one by time,
and with a table of its own for the greatest key ever used.  Other things in such a file may
stand beside these, but not under their names.

What a file lacks of its layout is made.  A table that is there already stays as it is, whatever
its columns are; so does an index of the right name, even if it is one of another table.

## Main definitions

* `InFlight.Audit.Layout` — what the catalogue of such a file lists.
* `InFlight.Audit.Table.toContent` — the file of a table.
* `InFlight.Audit.Layout.complete?` — what a database lacks of its layout.
-/

set_option relaxedAutoImplicit false
set_option autoImplicit false

namespace InFlight

namespace Audit

open Database (Growth Item Relation Value)

/-! ## The layout -/

namespace Layout

/-- The name of the table. -/
def tableName : String := "high_active_task_records"

/-- The names of the columns in order. -/
def columnNames : List String :=
  ["id", "user_id", "username", "active_slots", "window_secs", "created_at"]

/-- The statement that makes the table. -/
def tableStatement : String :=
  "CREATE TABLE high_active_task_records (\n" ++
  "    id INTEGER PRIMARY KEY AUTOINCREMENT,\n" ++
  "    user_id INTEGER NOT NULL,\n" ++
  "    username TEXT NOT NULL DEFAULT '',\n" ++
  "    active_slots INTEGER NOT NULL,\n" ++
  "    window_secs INTEGER NOT NULL,\n" ++
  "    created_at INTEGER NOT NULL\n)"

/-- The name of the table for the greatest key. -/
def keyTableName : String := "sqlite_sequence"

/-- What the catalogue lists: the tables and the indexes, each with its root on a page of its
own behind the catalogue. -/
def items : List Item := [
  { kind := "table", name := tableName, table := tableName, root := 2,
    statement := tableStatement },
  { kind := "table", name := keyTableName, table := keyTableName, root := 3,
    statement := "CREATE TABLE sqlite_sequence(name,seq)" },
  { kind := "index", name := "idx_high_active_user", table := tableName, root := 4,
    statement := "CREATE INDEX idx_high_active_user ON high_active_task_records(user_id)" },
  { kind := "index", name := "idx_high_active_created", table := tableName, root := 5,
    statement :=
      "CREATE INDEX idx_high_active_created ON high_active_task_records(created_at)" }]

/-- How many statements lay out a file; the table for the greatest key comes by itself. -/
def statements : Nat := 3

end Layout

/-! ## Writing -/

/-- The key of a row as a file writes it. -/
def Row.key (row : Row) : Nat := toUnsigned row.id

/-- The record of a row; its key stands beside it. -/
def Row.toRecordBytes (row : Row) : List UInt8 :=
  Database.writeRecord [.null, .integer row.userId, .ofText row.username, .integer row.activeSlots,
    .integer row.windowSecs, .integer row.createdAt]

/-- A cell of an index: a value and the key of the row that has it. -/
def indexCell (value key : Int) (rank : Nat) : Database.Cell :=
  let record := Database.writeRecord [.integer value, .integer key]
  { content := Database.varint record.length ++ record, rank }

namespace Table

/-- The cells of an index by a column, in the order of their values and keys. -/
def indexCells (t : Table) (column : Row → Int) : List Database.Cell :=
  let entries := t.rows.toList.zipIdx.mergeSort fun a b =>
    decide (column a.1 < column b.1 ∨ (column a.1 = column b.1 ∧ a.1.id ≤ b.1.id))
  entries.map fun (row, rank) => indexCell (column row) row.id rank

/-- The record of the greatest key ever used, if there is one. -/
def keyRows (t : Table) : List (Nat × List UInt8) :=
  if t.lastId = 0 then []
  else [(1, Database.writeRecord [.ofText Layout.tableName, .integer t.lastId])]

/-- The rows of the catalogue as cells. -/
def catalogueCells : List Database.Cell :=
  Layout.items.zipIdx.map fun (item, rank) =>
    let record := Database.writeRecord item.toRecord
    { content := Database.varint record.length ++ Database.varint (rank + 1) ++ record, rank }

/-- The content of the file of a table, with or without a log beside it. -/
def toContent (t : Table) (logged : Bool) : ByteArray :=
  let g : Growth := { fixed := 5 }
  let (g, rows) := g.rowTree (t.rows.toList.map fun row => (row.key, row.toRecordBytes))
  let (g, keys) := g.rowTree t.keyRows
  let (g, byUser) := g.indexTree (t.indexCells Row.userId)
  let (g, byTime) := g.indexTree (t.indexCells Row.createdAt)
  let header := Database.headerBytes logged (5 + g.pages.length) Layout.statements
  let catalogue := Database.writeNode .rowLeaf header none catalogueCells
  let pages := [catalogue, rows, keys, byUser, byTime] ++ g.pages
  ⟨pages.flatten.toArray⟩

end Table

/-! ## Laying out a database -/

namespace Layout

/-- The indexes, each with the column that it is by. -/
def indexes : List (String × String) :=
  [("idx_high_active_user", "user_id"), ("idx_high_active_created", "created_at")]

/-- A database that is laid out: its table, unless that has only been made and is empty, and
whether something was lacking. -/
structure Completion where
  relation : Option Relation
  changed : Bool

/-- The index by a column. -/
def indexBy (column : String) : Database.Sql.IndexDefinition :=
  { table := tableName, terms := [{ expr := .name [{ text := column }] }], unique := false
    condition := none }

/-- Makes an index that is lacking; none where that cannot be done. -/
def withIndex? (f : Database.File) (done : Relation × Bool) (name column : String) :
    Option (Relation × Bool) := do
  if (f.schema.table? name).isSome then none
  else if (f.schema.index? name).isSome then return done
  else
    let ix ← done.1.table.indexOf? (indexBy column) name 0 f.header.ordered
    return (← done.1.withIndex? ix, true)

/-- Makes what a database lacks of its layout; none where that cannot be done. -/
def complete? (f : Database.File) : Option Completion := do
  match f.schema.table? tableName with
  | some table =>
    if table.kind ≠ .ordinary then none
    else
      let start : Relation := { pages := f.pages, form := f.texts, table }
      let (relation, changed) ← indexes.foldlM
        (fun done (name, column) => withIndex? f done name column) (start, false)
      return { relation := some relation, changed }
  | none =>
    let isFree := (f.schema.index? tableName).isNone &&
      indexes.all fun (name, _) => (f.schema.table? name).isNone
    if isFree then return { relation := none, changed := true } else none

end Layout

end Audit

end InFlight
