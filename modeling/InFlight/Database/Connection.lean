import InFlight.Database.Address
import InFlight.Database.File
import InFlight.Database.Journal
import InFlight.Database.Log
import InFlight.Files.Tree

/-!
# Open databases

Beside the file of a database other files may stand, which have its name with an ending: the
journal of a change, the log of changes with its index, and a lock.  Opening a database makes
use of what it finds there.  A journal of a change that was not completed is undone, and the
changes in a log are read as if they were in the file.  Where there is no log the file begins
to keep one, if that is possible.

Opening may fail midway; what has happened to the files until then stays.  Closing brings the
log into the file, and takes the log and its index away, unless nothing may be changed or the
log cannot be right.

## Main definitions

* `InFlight.Database.Companion` — the files beside that of a database.
* `InFlight.Database.Connection` — a database that is open, with all files.
* `InFlight.Database.Opening` — a step on a connection, which may fail.
* `InFlight.Database.connect`, `InFlight.Database.keepLog`,
  `InFlight.Database.replaceContent` — the steps.
* `InFlight.Database.Connection.close` — the files after a connection.
-/

set_option relaxedAutoImplicit false
set_option autoImplicit false

namespace InFlight

namespace Database

/-! ## Files beside a database -/

/-- What may stand beside the file of a database. -/
inductive Companion where
  | journal
  | log
  | index
  | lock
deriving DecidableEq, Repr

/-- What the name of a companion ends with. -/
def Companion.ending : Companion → String
  | journal => "-journal"
  | log => "-wal"
  | index => "-shm"
  | lock => ".lock"

/-- The place of a companion of the file at a place. -/
def Companion.place (c : Companion) (main : Place) : Place :=
  main.dropLast ++ [(main.getLast?.getD "") ++ c.ending]

/-! ## Connections -/

/-- Whether changes go into a log, and whether the index of that may only be read. -/
inductive LogState where
  | absent
  | kept
  | sealed
deriving DecidableEq, Repr

/-- A database that is open: the files around it, how it was opened, the place of its file,
its pages, the state of the log, and the frames of changes in it. -/
structure Connection where
  files : FileTree
  address : Address
  place : Place
  image : Image
  log : LogState := .absent
  frames : List Log.Frame := []

/-- A step on a connection, which may fail. -/
abbrev Opening (α : Type) := OptionT (StateM Connection) α

namespace Connection

/-- What stands at the place of a companion. -/
def companion? (c : Connection) (kind : Companion) : Option FileNode :=
  c.files.node? (kind.place c.place)

/-- What stands at the place of a companion and is no empty file. -/
def standing? (c : Connection) (kind : Companion) : Option FileNode :=
  (c.companion? kind).filter fun node => node != .file .empty

/-- Takes a companion away. -/
def without (c : Connection) (kind : Companion) : Connection :=
  { c with files := c.files.erase (kind.place c.place) }

/-- A companion of such a name can be made. -/
def canName (c : Connection) (kind : Companion) : Bool :=
  (kind.place c.place).all fun name => decide (name.utf8ByteSize ≤ FileTree.maxNameBytes)

/-- The content of the file. -/
def content (c : Connection) : ByteArray := c.image.content

/-- The file holds nothing yet. -/
def isBlank (c : Connection) : Bool := c.content.size ≤ 1

/-- What the header tells, if the content begins with one. -/
def header? (c : Connection) : Option Header := Header.read? c.image

/-- The size of pages that the file tells, or the usual one. -/
def ownPageSize (c : Connection) : Nat :=
  let size := toldPageSize (c.content.extract 0 Image.headerSize).toList
  if isPageSize size then size else pageSize

/-- The database may be changed. -/
def isWritable (c : Connection) : Bool :=
  !c.address.isReadOnly && c.log != .sealed && (c.isBlank || c.header?.any Header.writable)

/-- Changes the file itself. -/
def put (c : Connection) (content : ByteArray) : Connection :=
  { c with image := { content }, files := c.files.insert c.place (.file content) }

/-- The content with the log brought into it, if that can be done. -/
def settled? (c : Connection) : Option ByteArray :=
  if c.frames.isEmpty then some c.content
  else Log.bringIn? c.content c.frames ((c.header?.map Header.pageSize).getD c.ownPageSize)

/-- The files after a connection is closed. -/
def close (c : Connection) : FileTree :=
  if c.log = .kept ∧ c.address.isReadOnly = false then
    match c.settled? with
    | none => c.files
    | some content =>
      let c := (c.put content).without .log
      (if c.address.hidesIndex then c else c.without .index).files
  else c.files

end Connection

/-! ## Journals -/

/-- What stands at the path that bytes write, with its place; an empty file counts as nothing. -/
def standingAt? (files : FileTree) (name : List UInt8) : Option (Place × FileNode) :=
  match files.locate (Address.fileName name) with
  | .error _ => none
  | .ok place =>
    ((files.node? place).filter fun node => node != .file .empty).map fun node => (place, node)

/-- A journal has a leader of the given name; none if a directory stands in place of a journal. -/
def names? (files : FileTree) (leader journal : List UInt8) : Option Bool :=
  match standingAt? files journal with
  | none => some false
  | some (_, .directory) => none
  | some (_, .file journal) => some (Journal.leader? journal == some leader)

/-- Takes a leader away once no journal that it names has it for a leader. -/
def dropLeader (name : List UInt8) : Opening Unit := do
  let c ← get
  match standingAt? c.files name with
  | some (place, .file content) =>
    let named ← OptionT.mk (pure ((Journal.names content.toList).mapM (names? c.files name)))
    if named.any id then return
    set { c with files := c.files.erase place }
    if place = c.place then failure
  | _ => failure

/-- Takes the file back to where it was before the change of a journal, and the journal away.
There is nothing to undo when the leader of the journal is gone. -/
def rollBack (journal : ByteArray) : Opening Unit := do
  let c ← get
  let before := Journal.undo c.content journal c.address.sector c.ownPageSize
  match (Journal.leader? journal).filter fun name => !name.isEmpty with
  | none => set ((c.put before).without .journal)
  | some leader =>
    if (standingAt? c.files leader).isNone then set (c.without .journal)
    else
      set ((c.put before).without .journal)
      dropLeader leader

/-- Undoes a change that was not completed.  A journal that begins with a zero byte is of no
use, and one beside a file that holds nothing is taken away. -/
def undoChange : Opening Unit := do
  let c ← get
  match c.standing? .journal with
  | none => pure ()
  | some node =>
    if c.address.holdsLock then pure ()
    else
      match node with
      | .file journal =>
        if c.isBlank then
          set (if c.address.isReadOnly && !c.address.lockless then c else c.without .journal)
        else if journal.data[0]? = some 0 then pure ()
        else if c.address.isReadOnly then failure
        else rollBack journal
      | _ => if c.isBlank then pure () else failure

/-- A change of the file itself needs a journal, which is gone afterwards. -/
def changeFile (content : ByteArray) : Opening Unit := do
  let c ← get
  match c.companion? .journal with
  | none => if c.canName .journal then set (c.put content) else failure
  | some (.file _) => set ((c.put content).without .journal)
  | some _ => failure

/-! ## Logs -/

/-- The index of a log as it is made. -/
def blankIndex : ByteArray := ⟨#[0x18, 0xE2, 0x2D, 0] ++ Array.replicate 32764 0⟩

/-- Makes the index of the log ready; it may turn out that it can only be read. -/
def openIndex : Opening LogState := do
  let c ← get
  if c.address.hidesIndex then return .kept
  match c.companion? .index with
  | some (.file _) =>
    if c.address.fixedIndex then return .sealed
    set { c with files := c.files.insert (Companion.index.place c.place) (.file blankIndex) }
    return .kept
  | some _ => return .sealed
  | none =>
    if c.address.fixedIndex || !c.canName .index then failure
    set { c with files := c.files.insert (Companion.index.place c.place) (.file blankIndex) }
    return .kept

/-- Opens the log, which may be a new one. -/
def openLog : Opening Unit := do
  let c ← get
  if !c.address.canLog then failure
  match c.companion? .log with
  | none =>
    if !c.canName .log then failure
    set { c with files := c.files.insert (Companion.log.place c.place) (.file .empty) }
    let log ← openIndex
    modify fun c => { c with log }
  | some (.file log) =>
    let state ← openIndex
    modify fun c => { c with log := state }
    let frames ← OptionT.mk (pure (Log.read? log))
    modify fun c => { c with image := Log.apply c.content frames, frames }
  | some _ => failure

/-- Opens a log that stands beside the file; one beside a file that holds nothing is taken
away. -/
def findLog : Opening Unit := do
  let c ← get
  match c.standing? .log with
  | none => pure ()
  | some node =>
    if !c.isBlank then openLog
    else
      match node with
      | .file _ => set (c.without .log)
      | _ => failure

/-! ## Opening -/

/-- Fails unless the content is a database or holds nothing yet. -/
def checkHeader : Opening (Option Header) := do
  let c ← get
  if c.isBlank then return none
  match c.header? with
  | some header => return some header
  | none => failure

/-- Reads what stands beside the file of a database that is to be opened. -/
def connect : Opening Unit := do
  let c ← get
  if c.address.fixed then
    let _ ← checkHeader
  else
    if c.address.holdsLock && (c.companion? .lock).isSome then failure
    undoChange
    findLog
    match ← checkHeader with
    | some header => if header.logged && (← get).log = .absent then openLog
    | none => pure ()

/-- The first page of a database that holds nothing and keeps a log. -/
def blankPage : ByteArray := ⟨(writeNode .rowLeaf (headerBytes true 1 0) none []).toArray⟩

/-- A content that tells to keep a log. -/
def withLog (h : Header) (content : ByteArray) : ByteArray :=
  let content := changed h content
  content.extract 0 18 ++ ⟨#[2, 2]⟩ ++ content.extract 20 content.size

/-- Begins to keep a log, if that is possible and none is kept. -/
def keepLog : Opening Unit := do
  let c ← get
  if c.log = .absent && c.address.canLog then
    if !c.isWritable then failure
    changeFile (match c.header? with
      | some header => if c.isBlank then blankPage else withLog header c.content
      | none => blankPage)
    openLog

/-- Replaces the content, in the log if one is kept. -/
def replaceContent (content : ByteArray) : Opening Unit := do
  let c ← get
  if !c.isWritable then failure
  if c.log = .absent then changeFile content
  else set { c with image := { content }, frames := [] }

end Database

end InFlight
