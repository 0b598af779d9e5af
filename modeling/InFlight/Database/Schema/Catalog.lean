import InFlight.Database.Record
import InFlight.Database.Scan
import InFlight.Database.Schema.Definition

/-!
# The catalogue of a database

The tree with its root on the first page lists what a database holds: tables, indexes, views and
triggers, each with its name, the page of its root and the statement that made it.  An index that a
rule of a table has added has no statement of its own.

What is listed must be as its statement says, and every statement must make sense behind those
before it; otherwise nothing can be read.

## Main definitions

* `InFlight.Database.Item` — what the catalogue lists.
* `InFlight.Database.Schema` — what a database holds.
* `InFlight.Database.Schema.add?` — what it holds with one item more.
* `InFlight.Database.Schema.read?` — what the items of a file make.
-/

set_option relaxedAutoImplicit false
set_option autoImplicit false

namespace InFlight

namespace Database

open Sql (Statement sameName)

/-! ## Items -/

/-- What the catalogue lists, when it is written. -/
structure Item where
  kind : String
  name : String
  table : String
  root : Nat
  statement : String
deriving DecidableEq, Repr

/-- The record of an item. -/
def Item.toRecord (item : Item) : List Value :=
  [.ofText item.kind, .ofText item.name, .ofText item.table, .integer item.root,
    .ofText item.statement]

/-- What the catalogue lists, as it is read: texts up to a zero byte, each of which may be
missing. -/
structure Listed where
  kind : Option (List Char)
  name : Option (List Char)
  table : Option (List Char)
  root : Option (List Char)
  statement : Option (List Char)
deriving DecidableEq, Repr

namespace Listed

/-- The text of a value, up to a zero byte. -/
def text? (form : TextForm) (v : Value) : Option (List Char) :=
  match v.spelled form with
  | .text bytes | .blob bytes => some ((Value.chars form bytes).takeWhile fun c => c != '\x00')
  | _ => none

/-- What is listed in an entry of the catalogue; what a record lacks is missing. -/
def ofEntry? (ps : Pages) (form : TextForm) (e : Entry) : Option Listed := do
  let field (i : Nat) : Option (Option (List Char)) := do
    let v ← ps.value? (e.payload ps.usable) i
    return v.bind (text? form)
  return {
    kind := ← field 0, name := ← field 1, table := ← field 2, root := ← field 3
    statement := ← field 4 }

/-- The greatest number of a page that can be written down. -/
def maxPage : Nat := Nat.pow 2 32

/-- The page of the root, if it is written in digits. -/
def page? (l : Listed) : Option Nat := do
  let digits ← l.root
  if digits.isEmpty || !digits.all Decimal.isDigit || decide (maxPage < Decimal.value digits) then
    none
  else return Decimal.value digits % maxPage

/-- The statement is one that makes something. -/
def makes (l : Listed) : Bool :=
  match l.statement with
  | some (c :: d :: _) => c.toLower == 'c' && d.toLower == 'r'
  | _ => false

/-- What is listed has a kind, a name and a table. -/
def agrees (l : Listed) (kind name table : String) : Bool :=
  let same (cs : Option (List Char)) (s : String) : Bool :=
    cs.any fun cs => sameName (String.ofList cs) s
  same l.kind kind && same l.name name && same l.table table

end Listed

/-! ## Schemas -/

/-- The name of the catalogue as a table. -/
def catalogueName : String := "sqlite_master"

/-- The catalogue as a table. -/
def catalogueTable : Table :=
  let column (name : String) (type : String) : Column :=
    { name, type := .ofText type, affinity := (ColumnType.ofText type).affinity }
  { name := catalogueName, root := 1
    columns := [column "type" "text", column "name" "text", column "tbl_name" "text",
      column "rootpage" "int", column "sql" "text"] }

/-- What a database holds: tables with their indexes, and the names of triggers. -/
structure Schema where
  tables : List Table := [catalogueTable]
  triggers : List String := []

/-- How the catalogue is looked at: how many pages there are, whether backward orders count, and
whether the checks of tables are looked at. -/
structure Outlook where
  pages : Nat
  ordered : Bool
  checked : Bool
deriving DecidableEq, Repr

namespace Schema

/-- The table or view of a name. -/
def table? (s : Schema) (name : String) : Option Table :=
  s.tables.find? fun t => sameName t.name name

/-- The index of a name, and its table. -/
def index? (s : Schema) (name : String) : Option (Table × Index) :=
  s.tables.findSome? fun t => (t.indexes.find? fun ix => sameName ix.name name).map (t, ·)

/-- A schema with one table more. -/
def withTable (s : Schema) (t : Table) : Schema := { s with tables := s.tables ++ [t] }

/-- A schema with a table in place of the one of its name. -/
def replaceTable (s : Schema) (t : Table) : Schema :=
  { s with tables := s.tables.map fun other => if other.name == t.name then t else other }

/-- Another index of a table has its root on a page. -/
def isTaken (t : Table) (name : String) (root : Nat) : Bool :=
  t.indexes.any fun ix => ix.root == root && ix.name != name

/-- The name of the one database that may be referred to. -/
def ownName : String := "main"

/-- All databases that something refers to are this one. -/
def refersToOwn (scope : Sql.Scope) : Bool := scope.databases.all (sameName ownName)

/-- The system's own tables. -/
def isSystem (t : Table) : Bool := sameName (String.ofList (t.name.toList.take 7)) "sqlite_"

variable (s : Schema) (o : Outlook)

/-- Adds a table or a view that does not take a name that is taken. -/
def addTable? (st : Statement) (kind name : String) (l : Listed) (make? : Option Table) :
    Option Schema := do
  if !l.agrees kind name name then none
  else if !st.temporary && (s.table? name).isSome then
    if st.unlessThere then return s else none
  else if !st.temporary && (s.index? name).isSome then none
  else
    let t ← make?
    return if st.temporary then s else s.withTable t

/-- Adds an index. -/
def addIndex? (st : Statement) (definition : Sql.IndexDefinition) (root : Nat) (l : Listed) :
    Option Schema := do
  let t ← s.table? definition.table
  if t.kind ≠ .ordinary ∨ l.agrees "index" st.name t.name = false then none
  else if (s.index? st.name).isSome then
    if st.unlessThere then return s else none
  else
    let ix ← t.indexOf? definition st.name root o.ordered
    if isTaken t ix.name root then none else return s.replaceTable (t.withIndex ix)

/-- Adds a trigger. -/
def addTrigger? (st : Statement) (table : String) (instead : Bool) (scope : Sql.Scope)
    (l : Listed) : Option Schema := do
  let t ← s.table? table
  if t.kind = .module ∨ l.agrees "trigger" st.name t.name = false then none
  else if !st.temporary && s.triggers.any (sameName st.name) then
    if st.unlessThere then return s else none
  else if isSystem t ∨ instead ≠ (t.kind == .view) then none
  else if !st.temporary && !refersToOwn scope then none
  else return if st.temporary then s else { s with triggers := st.name :: s.triggers }

/-- Adds what a statement makes, with its root on a page. -/
def make? (st : Statement) (root : Nat) (l : Listed) : Option Schema :=
  let isTable := match st.making with
    | .table _ | .view _ | .module => true
    | _ => false
  -- a table with its root on the first page can only be the catalogue
  let isCatalogue := isTable && root == 1
  let name := if isCatalogue then catalogueName else st.name
  if st.qualified && !isCatalogue then none
  else
    match st.making with
    | .table definition =>
      s.addTable? st "table" name l (Table.ofDefinition? definition name root o.ordered o.checked)
    | .view scope =>
      let sound := root == 0 && !scope.parameters && (st.temporary || refersToOwn scope)
      s.addTable? st "view" name l (if sound then some { name, kind := .view } else none)
    | .module => s.addTable? st "table" name l (some { name, kind := .module })
    | .index definition => s.addIndex? o st definition root l
    | .trigger table instead scope => s.addTrigger? st table instead scope l

/-- Gives an index of a name its root. -/
def setRoot? (name : List Char) (root : Nat) : Option Schema := do
  let (t, ix) ← s.index? (String.ofList name)
  if root < 2 ∨ o.pages < root ∨ isTaken t ix.name root then none
  else
    let indexes := t.indexes.map fun other =>
      if other.name == ix.name then { other with root } else other
    return s.replaceTable { t with indexes }

/-- What a database holds with one item more. -/
def add? (l : Listed) : Option Schema := do
  let _ ← l.root
  if l.makes then
    let root ← l.page?
    if o.pages < root then none
    else s.make? o (← Statement.ofText? (l.statement.getD [])) root l
  else
    let name ← l.name
    if l.statement.any fun cs => !cs.isEmpty then none else s.setRoot? o name (← l.page?)

/-- What the items of a file make. -/
def read? (ps : Pages) (form : TextForm) (o : Outlook) : Option Schema := do
  let entries ← (ps.entries true 1 false).toList?
  let listed ← entries.mapM (Listed.ofEntry? ps form)
  listed.foldlM (fun s l => s.add? o l) {}

end Schema

end Database

end InFlight
