import InFlight.Database.Schema.Rule

/-!
# Tables and indexes from their definitions

The rules in a definition are looked at one after the other.  Some of them add an index of their
own, unless there is one that sorts rows by the same.  A primary key of one column of integers adds
none: the column becomes another name for the key of the rows.

When the rows have no keys of their own, the index by the primary key holds them, and all other
indexes tell rows by the columns of the primary key.

Indexes are kept with the newest first, but those that let rows take the place of others come last.

## Main definitions

* `InFlight.Database.Draft` — a table whose definition is being looked at.
* `InFlight.Database.Table.ofDefinition?` — the table of a definition.
* `InFlight.Database.Table.indexOf?`, `InFlight.Database.Table.withIndex` — the index of a
  definition.
-/

set_option relaxedAutoImplicit false
set_option autoImplicit false

namespace InFlight

namespace Database

open Sql (Expr Term sameName ColumnRule ColumnDefinition TableRule TableDefinition)

/-! ## Columns -/

/-- How many columns there may be. -/
def maxColumns : Nat := 2000

namespace Column

/-- A column with one rule more; none if the rule is out of place. -/
def withRule? (c : Column) : ColumnRule → Option Column
  | .default e =>
    if e.isConstant && c.generated.isNone then some { c with default := some e } else none
  | .notNull _ => some { c with notNull := true }
  | .primaryKey .. => if c.generated.isSome then none else some { c with inPrimaryKey := true }
  | .references (some targets) => if targets.length = 1 then some c else none
  | .collate name => some { c with collation := name }
  | .generated e stored =>
    if c.default.isSome || c.generated.isSome || c.inPrimaryKey then none
    else some { c with generated := some (e, stored) }
  | _ => some c

/-- The column of a definition. -/
def ofDefinition? (d : ColumnDefinition) : Option Column :=
  let type := ColumnType.ofText d.type
  let start : Column := { name := d.name, type, affinity := type.affinity }
  d.rules.foldlM withRule? start

/-- The columns of definitions; no two have one name. -/
def ofDefinitions? (ds : List ColumnDefinition) : Option (List Column) :=
  let names := ds.map fun d => d.name.toLower
  if maxColumns < ds.length ∨ names.eraseDups.length ≠ names.length then none
  else ds.mapM ofDefinition?

end Column

/-! ## Parts of indexes -/

/-- A string in the place of a name as a name. -/
def namedBy : Expr → Expr
  | .literal (.string content) => .name [{ text := String.ofList content, marks := .other }]
  | .node (.collate c) [e] => .node (.collate c) [namedBy e]
  | e => e

/-- The collation that an expression is given outermost. -/
def outerCollation? : Expr → Option String
  | .node (.collate c) _ => some c
  | _ => none

namespace Table

/-- The column that an expression is, but for a collation. -/
def columnOf? (t : Table) (e : Expr) : Option Nat :=
  match e.bare with
  | .name parts =>
    match t.meaning? .index parts with
    | some (.column i) => some i
    | _ => none
  | _ => none

/-- The part of an index that a term makes; an order backward may have to be left out. -/
def part? (t : Table) (ordered : Bool) (term : Term) : Option Part :=
  let e := namedBy term.expr
  if term.placesNull || !t.admits .index e then none
  else
    let backward := ordered && term.backward
    match t.columnOf? e with
    | some i =>
      let own := (t.columns[i]?.map Column.collation).getD "BINARY"
      some { source := .column i, collation := (outerCollation? e).getD own, backward }
    | none => some { source := .expr, collation := (outerCollation? e).getD "BINARY", backward }

/-- The parts of an index; in a definition of a table all of them must be columns. -/
def parts? (t : Table) (ordered columnsOnly : Bool) (terms : List Term) : Option (List Part) := do
  if maxColumns < terms.length then none
  let parts ← terms.mapM (t.part? ordered)
  if columnsOnly && parts.any fun p => p.source == .expr then none else return parts

/-- Parts that are not among others. -/
def missing (among : List Part) (parts : List Part) : List Part :=
  parts.filter fun p => !among.any p.isLike

/-- An index with what tells the rows of a table. -/
def complete (t : Table) (ix : Index) : Index :=
  match if t.keyless then t.primary? else none with
  | some primary => { ix with rest := missing ix.parts primary.parts }
  | none => { ix with rest := [{ source := .key }] }

/-- A table with one index more, which may take the place of one of its name. -/
def withIndex (t : Table) (ix : Index) : Table :=
  let (last, first) := (ix :: t.indexes).partition Index.replaces
  { t with indexes := first ++ last }

end Table

/-! ## Tables -/

/-- A table whose definition is being looked at, and whether backward orders count; further
whether there is a rule for its primary key, what is to happen to rows that break it, and whether
its order is backward. -/
structure Draft where
  table : Table
  ordered : Bool
  hasPrimaryKey : Bool := false
  counting : Bool := false
  keyResolution : Sql.Resolution := .unstated
  keyBackward : Bool := false

namespace Draft

/-- The name of an index that a rule adds. -/
def indexName (d : Draft) : String :=
  "sqlite_autoindex_" ++ d.table.name ++ "_" ++ toString (d.table.indexes.length + 1)

/-- Two lists of parts sort rows by the same. -/
def sortAlike (a b : List Part) : Bool :=
  a.length == b.length && (a.zip b).all fun p => p.1.isLike p.2

/-- What is to happen to rows that break two rules which say the same; none if these differ. -/
def agree? (a b : Sql.Resolution) : Option Sql.Resolution :=
  if a = b then some a
  else if a = .unstated then some b
  else if b = .unstated then some a
  else none

/-- Adds the index of a rule, unless one sorts rows by the same. -/
def addIndex? (d : Draft) (parts : List Part) (r : Sql.Resolution) (isPrimary : Bool) :
    Option Draft :=
  match d.table.indexes.find? fun ix => sortAlike ix.parts parts with
  | some old => do
    let r ← agree? (old.unique.getD .unstated) r
    let indexes := d.table.indexes.map fun ix =>
      if ix.name == old.name then
        { ix with unique := some r, isPrimary := ix.isPrimary || isPrimary }
      else ix
    let (last, first) := indexes.partition Index.replaces
    return { d with table := { d.table with indexes := first ++ last } }
  | none =>
    let ix : Index := { name := d.indexName, parts, unique := some r, isPrimary }
    some { d with table := d.table.withIndex ix }

/-- The part of an index that is a column. -/
def columnPart (d : Draft) (i : Nat) (backward : Bool) : Part :=
  { source := .column i
    collation := (d.table.columns[i]?.map Column.collation).getD "BINARY"
    backward := d.ordered && backward }

/-- A column is declared as one of integers. -/
def isInteger (d : Draft) (i : Nat) : Bool :=
  d.table.columns[i]?.any fun c => c.type.standard == some "integer"

/-- A draft with a primary key, of which there may be one only. -/
def primary? (d : Draft) : Option Draft :=
  if d.hasPrimaryKey then none else some { d with hasPrimaryKey := true }

/-- A draft with a column that is another name for the key. -/
def withKey (d : Draft) (i : Nat) (backward counting : Bool) (r : Sql.Resolution) : Draft :=
  { d with table := { d.table with keyColumn := some i }, keyBackward := backward, counting
           keyResolution := r }

/-- The rule of a column adds what it adds to a table. -/
def applyColumnRule? (i : Nat) (d : Draft) : ColumnRule → Option Draft
  | .primaryKey backward counting r => do
    let d ← d.primary?
    if d.isInteger i && !backward then return d.withKey i false counting r
    else if counting then none
    else d.addIndex? [d.columnPart i backward] r true
  | .unique r => d.addIndex? [d.columnPart i false] r false
  | _ => some d

/-- The columns that terms name. -/
def namedColumns (d : Draft) (terms : List Term) : List Nat :=
  terms.filterMap fun term => d.table.columnOf? (namedBy term.expr)

/-- A draft with columns marked as part of the primary key; they must not be made from others. -/
def markPrimary? (d : Draft) (columns : List Nat) : Option Draft :=
  let marked := d.table.columns.zipIdx.map fun (c, i) =>
    if columns.contains i then { c with inPrimaryKey := true } else c
  if marked.any fun c => c.inPrimaryKey && c.generated.isSome then none
  else some { d with table := { d.table with columns := marked } }

/-- The rule of a table adds what it adds. -/
def applyTableRule? (d : Draft) : TableRule → Option Draft
  | .primaryKey terms counting r => do
    let d ← d.primary?
    let columns := d.namedColumns terms
    let d ← d.markPrimary? columns
    match terms, columns with
    | [term], [i] =>
      if d.isInteger i then
        if term.placesNull then none else return d.withKey i term.backward counting r
    | _, _ => pure ()
    if counting then none
    else d.addIndex? (← d.table.parts? d.ordered true terms) r true
  | .unique terms r => do d.addIndex? (← d.table.parts? d.ordered true terms) r false
  | .foreignKey columns targets =>
    let known := columns.all fun name => (d.table.column? name).isSome
    let agree := targets.all fun ts => ts.length == columns.length
    if known && agree then some d else none
  | _ => some d

/-- The types of a table bind: each must be one of its own; any type takes all values. -/
def bindTypes? (d : Draft) : Option Draft :=
  if d.table.columns.any fun c => c.type.standard.isNone then none
  else
    let columns := d.table.columns.zipIdx.map fun (c, i) =>
      { c with
        affinity := if c.type.standard == some "any" then .blob else c.affinity
        notNull := c.notNull || (c.inPrimaryKey && d.table.keyColumn != some i) }
    some { d with table := { d.table with columns } }

/-- Parts without those that stand before. -/
def distinct (parts : List Part) : List Part :=
  parts.foldl (fun done p => if done.any p.isLike then done else done ++ [p]) []

/-- The rows have no keys of their own: they are held by the index by the primary key. -/
def dropKeys? (d : Draft) : Option Draft := do
  if d.counting || !d.hasPrimaryKey then none
  let columns := d.table.columns.map fun c => { c with notNull := c.notNull || c.inPrimaryKey }
  let d := { d with table := { d.table with columns, keyless := true } }
  let d ← match d.table.keyColumn with
    | some i =>
      let unnamed := { d with table := { d.table with keyColumn := none } }
      unnamed.addIndex? [d.columnPart i d.keyBackward] d.keyResolution true
    | none => some d
  let primary ← d.table.primary?
  let parts := distinct primary.parts
  let others := d.table.columns.zipIdx.filterMap fun (c, i) =>
    if c.isVirtual || parts.any fun p => p.source == .column i then none
    else some { source := .column i : Part }
  let indexes := d.table.indexes.map fun ix =>
    if ix.isPrimary then { ix with parts, rest := others, root := d.table.root }
    else
      -- what tells the rows stands forward behind the parts that a rule sorts by
      let rest := (Table.missing ix.parts parts).map fun p => { p with backward := false }
      { ix with rest }
  return { d with table := { d.table with indexes } }

/-- The rows have keys of their own, which tell them in every index. -/
def keepKeys (d : Draft) : Draft :=
  let indexes := d.table.indexes.map fun ix => { ix with rest := [{ source := .key }] }
  { d with table := { d.table with indexes } }

end Draft

namespace Table

/-- The checks of a definition. -/
def checksOf (definition : TableDefinition) : List Expr :=
  let ofColumns := definition.columns.flatMap fun c => c.rules.filterMap fun
    | .check e => some e
    | _ => none
  ofColumns ++ definition.rules.filterMap fun
    | .check e => some e
    | _ => none

/-- The expressions of a table are in their places, and some column is not made from others. -/
def isSound (t : Table) (checks : List Expr) : Bool :=
  (checks.all fun e => t.admits .check e) &&
    (t.columns.all fun c => c.generated.all fun g => t.admits .column g.1) &&
    t.columns.any fun c => c.generated.isNone

/-- The table of a definition, with a name and a root.  Backward orders count or not, and checks
are looked at or not. -/
def ofDefinition? (definition : TableDefinition) (name : String) (root : Nat)
    (ordered checked : Bool) : Option Table := do
  let columns ← Column.ofDefinitions? definition.columns
  let start : Draft := { table := { name, root, columns }, ordered }
  let d ← definition.columns.zipIdx.foldlM
    (fun d (c, i) => c.rules.foldlM (Draft.applyColumnRule? i) d) start
  let d ← definition.rules.foldlM Draft.applyTableRule? d
  let d ← if definition.strict then d.bindTypes? else some d
  let d ← if definition.keyless then d.dropKeys? else some d.keepKeys
  if d.table.isSound (if checked then checksOf definition else []) then return d.table else none

/-- The index of a definition, with a name and a root. -/
def indexOf? (t : Table) (definition : Sql.IndexDefinition) (name : String) (root : Nat)
    (ordered : Bool) : Option Index := do
  if t.kind ≠ .ordinary then none
  if !definition.condition.all (t.admits .condition) then none
  let parts ← t.parts? ordered false definition.terms
  return t.complete {
    name, root, parts
    unique := if definition.unique then some .abort else none
    isPartial := definition.condition.isSome }

end Table

end Database

end InFlight
