import InFlight.Audit.Listing
import InFlight.Database.Connection

/-!
# The history file

A history is opened by its name, which is a path or an address.  One name stands for a history
in memory.  The directories that lead to a path are made when they are missing, and so is the
file unless the address forbids it.  What a database lacks of the table and its indexes is
added to it.

## Main definitions

* `InFlight.Audit.layOut` — adding what a database lacks.
* `InFlight.Audit.Opened` — a history that was opened; `Opened.listed?`, `Opened.count?`.
* `InFlight.Audit.openTable` — the table of a name.
* `InFlight.Audit.openHistory` — the history that settings name.
-/

set_option relaxedAutoImplicit false
set_option autoImplicit false

namespace InFlight

namespace Audit

open Database (Address)

/-! ## Laying out a database -/

/-- The database of a connection, if its file holds one and not nothing. -/
def databaseOf : Database.Opening (Option Database.File) := do
  let c ← get
  if c.isBlank then return none
  match Database.File.ofImage? c.image (!c.address.isReadOnly) with
  | some f => return some f
  | none => failure

/-- A database that was opened: its file, if it holds one, and its table, unless that is empty. -/
structure LaidOut where
  file : Option Database.File := none
  relation : Option Database.Relation := none

/-- Adds what the content of a connection lacks of the layout. -/
def layOut : Database.Opening LaidOut := do
  let c ← get
  let empty (logged : Bool) := ({} : Table).toContent logged
  match ← databaseOf with
  | none =>
    Database.replaceContent (empty c.address.canLog)
    return {}
  | some f =>
    match Layout.complete? f with
    | none => failure
    | some done =>
      if done.changed then
        Database.replaceContent (if f.isEmpty then empty f.header.logged
          else Database.changed f.header (c.settled?.getD c.content))
      return { file := some f, relation := done.relation }

/-! ## Opening a file -/

/-- The place of a file that holds a table and nothing else, with or without a log beside
it. -/
structure TableFile where
  place : Place
  logged : Bool
deriving DecidableEq, Repr

/-- A history that was opened: its database; whether it can only be listed; and its file, if it is
kept in one of its own. -/
structure Opened where
  laidOut : LaidOut := {}
  isSealed : Bool := false
  file : Option TableFile := none

namespace Opened

/-- The records that a query lists; none for damage, and for values that are none of a record. -/
def listed? (o : Opened) (q : Query) : Option (List Record) :=
  match o.laidOut.relation with
  | some r => Audit.listed? r q
  | none => some []

/-- How many rows there are; none for damage. -/
def count? (o : Opened) : Option Nat :=
  match o.laidOut.relation with
  | some r => r.count?
  | none => some 0

/-- All rows, if they are those of a history. -/
def table? (o : Opened) : Option Table :=
  match o.laidOut.file, o.laidOut.relation with
  | some f, some r => Table.ofRelation? f r
  | _, _ => some {}

end Opened

/-- The longest path of a database from the root, in bytes. -/
def maxDatabasePathBytes : Nat := 504

/-- The place of the device that keeps nothing. -/
def nullDevice : Place := ["dev", "null"]

/-- The place of a database file; it must not be the root, the device that keeps nothing, or
too far from the root. -/
def databasePlace? (files : FileTree) (path : String) : Option Place :=
  (files.settle? path).filter fun place =>
    !place.isEmpty && place != nullDevice &&
      decide (place.foldl (fun n name => n + (name.utf8ByteSize + 1)) 0 ≤ maxDatabasePathBytes)

/-- Nothing but the layout is in a database. -/
def holdsOnlyLayout (image : Database.Image) : Bool :=
  (Database.File.ofImage? image false).all fun f =>
    f.names.all fun name => Layout.items.any fun own => own.name == name

/-- The steps of opening a table. -/
def openSteps : Database.Opening Opened := do
  Database.connect
  let _ ← databaseOf
  Database.keepLog
  let laidOut ← layOut
  let c ← get
  return {
    laidOut
    isSealed := !c.isWritable
    file :=
      if holdsOnlyLayout c.image then some { place := c.place, logged := c.log != .absent }
      else none }

/-- Opens the file with a content at a place. -/
def openContent (files : FileTree) (address : Address) (place : Place) (content : ByteArray) :
    FileTree × Except Error Opened :=
  match openSteps.run { files, address, place, image := { content } } with
  | (some opened, c) => (c.close, .ok opened)
  | (none, c) => (c.close, .error .database)

/-- Opens the file at a place, which may be a new one. -/
def openPlace (files : FileTree) (a : Address) (place : Place) :
    FileTree × Except Error Opened :=
  match files.node? place with
  | some (.file content) => openContent files a place content
  | some _ => (files, .error .database)
  | none =>
    if a.mode = .create ∧ files.node? place.dropLast = some .directory then
      openContent (files.insert place (.file .empty)) a place .empty
    else (files, .error .database)

/-- Opens the database at an address. -/
def openAddress (files : FileTree) (a : Address) : FileTree × Except Error Opened :=
  if a.isTransient then
    (files, if a.isReadOnly then .error .database else .ok {})
  else if !a.model.all files.contains then (files, .error .database)
  else
    match databasePlace? files a.path with
    | some place => openPlace files a place
    | none => (files, .error .database)

/-! ## Opening a history -/

/-- The table of a name, and the files with what was missing. -/
def openTable (files : FileTree) (name : String) : FileTree × Except Error Opened :=
  match files.makeParent name with
  | (files, some e) => (files, .error e)
  | (files, none) =>
    match Address.ofName? name with
    | some a => openAddress files a
    | none => (files, .error .database)

/-- Where a table that was opened is kept. -/
def Opened.backend (o : Opened) : Backend :=
  match o.table? with
  | some table => if o.isSealed then .sealed table else .table (some table)
  | none => .table none

/-- The history that settings name: where it is kept, and its file if it has one. -/
def openHistory (files : FileTree) (name : String) :
    FileTree × Except Error (Backend × Option TableFile) :=
  if name = Address.memoryPath then (files, .ok (.journal {}, none))
  else
    match openTable files name with
    | (files, .ok o) => (files, .ok (o.backend, o.file))
    | (files, .error e) => (files, .error e)

end Audit

end InFlight
