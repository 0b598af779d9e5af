import InFlight.Database.Schema.Type
import InFlight.Database.Sql.Statement

/-!
# Tables

A table has columns.  Its rows have keys of their own, and a column of integers may be another name
for the key; or else the rows have no keys of their own and are the entries of an index by the
primary key of the table.

An index sorts rows by columns or expressions.  Behind these its entries hold what tells the row:
its key, or the columns of the primary key that are missing.  The index that holds the rows
themselves goes on with all other columns.

## Main definitions

* `InFlight.Database.Column`, `InFlight.Database.Index`, `InFlight.Database.Table` — tables.
* `InFlight.Database.Table.slot?` — where a row holds the value of a column.
-/

set_option relaxedAutoImplicit false
set_option autoImplicit false

namespace InFlight

namespace Database

open Sql (Expr sameName)

/-- A column of a table. -/
structure Column where
  name : String
  type : ColumnType
  affinity : Affinity
  /-- The name of the collation by which texts are compared. -/
  collation : String := "BINARY"
  notNull : Bool := false
  inPrimaryKey : Bool := false
  default : Option Expr := none
  /-- How the column is made from others, and whether its values are stored. -/
  generated : Option (Expr × Bool) := none

namespace Column

/-- The values of a column are made when they are read. -/
def isVirtual (c : Column) : Bool := c.generated.any fun g => !g.2

end Column

/-- What an index holds of a row. -/
inductive Source where
  | column (i : Nat)
  /-- The key of the row, where it has one of its own. -/
  | key
  | expr
deriving DecidableEq, Repr

/-- What an index sorts rows by, or holds behind that. -/
structure Part where
  source : Source
  collation : String := "BINARY"
  backward : Bool := false
deriving DecidableEq, Repr

namespace Part

/-- Two parts hold the same and compare it alike. -/
def isLike (a b : Part) : Bool := a.source == b.source && sameName a.collation b.collation

end Part

/-- An index. -/
structure Index where
  name : String
  /-- The page of its root. -/
  root : Nat := 0
  /-- What rows are sorted by. -/
  parts : List Part
  /-- What the entries hold behind that. -/
  rest : List Part := []
  /-- What happens to rows that it may not hold, if it may not hold a value twice. -/
  unique : Option Sql.Resolution := none
  isPrimary : Bool := false
  /-- It holds only rows that meet a condition. -/
  isPartial : Bool := false

namespace Index

/-- All that the entries of an index hold. -/
def held (ix : Index) : List Part := ix.parts ++ ix.rest

/-- Where the entries of an index hold something. -/
def position? (ix : Index) (s : Source) : Option Nat :=
  ix.held.findIdx? fun part => part.source == s

/-- A row that the index may not hold takes the place of others. -/
def replaces (ix : Index) : Bool := ix.unique == some .replace

end Index

/-- What stands under the name of a table. -/
inductive TableKind where
  | ordinary
  | view
  /-- The table is made up by a module. -/
  | module
deriving DecidableEq, Repr

/-- A table. -/
structure Table where
  name : String
  kind : TableKind := .ordinary
  root : Nat := 0
  columns : List Column := []
  /-- The column that is another name for the key. -/
  keyColumn : Option Nat := none
  /-- The rows have no keys of their own. -/
  keyless : Bool := false
  indexes : List Index := []

namespace Table

/-- The column of a name. -/
def column? (t : Table) (name : String) : Option Nat :=
  t.columns.findIdx? fun c => sameName c.name name

/-- The names that the key of a row goes by. -/
def keyNames : List String := ["_rowid_", "rowid", "oid"]

/-- A name is one of the key. -/
def isKeyName (name : String) : Bool := keyNames.any (sameName name)

/-- The index by the primary key. -/
def primary? (t : Table) : Option Index := t.indexes.find? Index.isPrimary

/-- The place of a column among those that are stored. -/
def storedBefore (t : Table) (i : Nat) : Nat :=
  (t.columns.take i).countP fun c => !c.isVirtual

/-- Where a row holds the value of a column that is stored and not another name for the key. -/
def slot? (t : Table) (i : Nat) : Option Nat :=
  if t.keyless then t.primary?.bind fun ix => ix.position? (.column i)
  else some (t.storedBefore i)

/-- A column of a table without columns that are made when they are read is stored at its own
place. -/
theorem storedBefore_eq {t : Table} (h : ∀ c ∈ t.columns, c.isVirtual = false) {i : Nat}
    (hi : i ≤ t.columns.length) : t.storedBefore i = i := by
  unfold storedBefore
  rw [List.countP_eq_length.2, List.length_take, Nat.min_eq_left hi]
  intro c hc
  simp [h c (List.mem_of_mem_take hc)]

end Table

end Database

end InFlight
