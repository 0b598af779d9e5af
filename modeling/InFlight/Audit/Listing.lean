import InFlight.Audit.Layout

/-!
# Listing a history file

A listing is a selection of the columns of a record, the newest rows first.  Every value that is
listed must be what its field is; values of rows that are not listed do not matter.

## Main definitions

* `InFlight.Audit.Query.selection?` — the selection of a query.
* `InFlight.Audit.Row.ofValues?` — the row of values.
* `InFlight.Audit.listed?` — the records that a query lists of a table.
* `InFlight.Audit.Table.ofRelation?` — all rows of a table.
-/

set_option relaxedAutoImplicit false
set_option autoImplicit false

namespace InFlight

namespace Audit

open Database (Relation Selection TextForm Value)

/-- The selection of a query from a table; none if a column is missing. -/
def Query.selection? (q : Query) (t : Database.Table) : Option Selection := do
  let columns ← Layout.columnNames.mapM t.column?
  let id ← t.column? "id"
  let owner ← t.column? "user_id"
  let createdAt ← t.column? "created_at"
  return {
    columns
    conditions := [
      { column := createdAt, comparison := .ge, bound := q.startTime },
      { column := createdAt, comparison := .le, bound := q.endTime },
      { column := owner, comparison := .eq, bound := q.owner }]
    order := [createdAt, id]
    limit := q.effectiveLimit.toNat }

/-- The row of values. -/
def Row.ofValues? (form : TextForm) : List Value → Option Row
  | [.integer id, .integer userId, .text username, .integer activeSlots, .integer windowSecs,
      .integer createdAt] => do
    return { id, userId, username := ← form.decode? username, activeSlots, windowSecs, createdAt }
  | _ => none

/-- The records that a query lists of a table. -/
def listed? (r : Relation) (q : Query) : Option (List Record) := do
  let rows ← r.answer? (← q.selection? r.table)
  rows.mapM fun vs => (Row.ofValues? r.form vs).map Row.toRecord

namespace Table

/-- The values of some columns in all rows of a table, in the order of their keys. -/
def valuesOf? (r : Relation) (names : List String) : Option (List (List Value)) := do
  let columns ← names.mapM r.table.column?
  ((r.ownEntries false).mapM fun e => columns.mapM (r.value? (r.rowOf e))).toList?

/-- The greatest key that a row of the table for it notes. -/
def keyOfValues? (form : TextForm) : List Value → Option Int
  | [.text name, .integer key] =>
    if form.decode? name = some Layout.tableName then some key else none
  | _ => none

/-- The greatest key ever used in a file, where it is noted. -/
def notedKey (f : Database.File) : Int :=
  let rows? := (f.schema.table? Layout.keyTableName).bind fun table =>
    valuesOf? { pages := f.pages, form := f.texts, table } ["name", "seq"]
  ((rows?.getD []).findSome? (keyOfValues? f.texts)).getD 0

/-- The rows of a table of a file, if all of them are those of a history. -/
def ofRelation? (f : Database.File) (r : Relation) : Option Table := do
  let values ← valuesOf? r Layout.columnNames
  let rows ← values.mapM (Row.ofValues? r.form)
  return {
    rows := rows.toArray
    lastId := rows.foldl (fun greatest row => max greatest row.id) (notedKey f) }

end Table

end Audit

end InFlight
