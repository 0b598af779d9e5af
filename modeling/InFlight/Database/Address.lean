import InFlight.Text.Hex
import InFlight.Text.Percent
import InFlight.Text.Split
import InFlight.Text.Utf8

/-!
# Addresses of databases

A database is named by a path or by an address.  An address begins with `file:`; behind that
may stand two slashes and the name of this machine, then come a path, a question mark and
parameters, and a number sign, behind which everything is ignored.  In the path and the
parameters a percent sign with two hexadecimal digits stands for a byte, and what follows a
zero byte is ignored.

Parameters say how the database is opened.  Of most parameters the first one counts, but the
last driver is used, and every mode must be known and ask for no more than the one before it.

## Main definitions

* `InFlight.Database.Mode` — what may be done with a file.
* `InFlight.Database.Driver` — the ways in which files are reached.
* `InFlight.Database.Address` — path and parameters; `Address.ofName?`.
-/

set_option relaxedAutoImplicit false
set_option autoImplicit false

namespace InFlight

namespace Database

/-- What may be done with the file of a database; in memory there is none. -/
inductive Mode where
  | readOnly
  | readWrite
  | create
  | memory
deriving DecidableEq, Repr

namespace Mode

/-- How much a mode allows. -/
def rank : Mode → Nat
  | readOnly => 1
  | readWrite => 2
  | create => 6
  | memory => 128

/-- The mode of a name. -/
def ofName? (name : String) : Option Mode :=
  match name with
  | "ro" => some readOnly
  | "rw" => some readWrite
  | "rwc" => some create
  | "memory" => some memory
  | _ => none

/-- One mode may be asked for behind another: it allows no more, or leaves the file alone. -/
def MayFollow (next before : Mode) : Prop := next = memory ∨ next.rank ≤ before.rank

instance (next before : Mode) : Decidable (next.MayFollow before) :=
  inferInstanceAs (Decidable (_ ∨ _))

end Mode

/-- The ways in which files are reached. -/
inductive Driver where
  /-- With a log of changes that others can see. -/
  | shared
  /-- With a log of changes that others cannot see. -/
  | exclusive
  /-- Without a log. -/
  | plain
  /-- Without a log, and with a file of its own for a lock. -/
  | lockFile
  /-- Not at all. -/
  | memory
deriving DecidableEq, Repr

/-- The driver of a name. -/
def Driver.ofName? (name : String) : Option Driver :=
  match name with
  | "unix" => some shared
  | "unix-excl" => some exclusive
  | "unix-none" => some plain
  | "unix-dotfile" => some lockFile
  | "memdb" => some memory
  | _ => none

/-- A path, and how the database there is opened. -/
structure Address where
  path : String
  mode : Mode := .create
  driver : Driver := .shared
  /-- The file never changes. -/
  fixed : Bool := false
  /-- No locks are taken. -/
  lockless : Bool := false
  /-- The index of the log may only be read. -/
  fixedIndex : Bool := false
  /-- A file whose permissions a new file takes. -/
  model : Option String := none
  /-- How many bytes the medium writes at once, at least. -/
  sector : Nat := 512
deriving DecidableEq, Repr

/-! ## Parameters -/

/-- Parameters in order: keys and values. -/
abbrev Parameters := List (String × String)

/-- The bytes that a part of an address stands for. -/
def partBytes (bytes : List UInt8) : List UInt8 :=
  (Text.percentDecode bytes).takeWhile fun b => b != 0

/-- The text of a key or a value. -/
def decodePart (bytes : List UInt8) : String := Utf8.decodeLossy (partBytes bytes)

/-- The character for a byte of a name that is no text; no other name has it. -/
def strangeChar (b : UInt8) : Char :=
  if b < 0x80 then Char.ofNat b.toNat else Char.ofNat (0x10FF00 + b.toNat)

/-- The name of a file that bytes stand for, even if they are no text. -/
def Address.fileName (bytes : List UInt8) : String :=
  (Utf8.decode? ⟨bytes.toArray⟩).getD (String.ofList (bytes.map strangeChar))

/-- The path that a part of an address stands for. -/
def decodePath (bytes : List UInt8) : String :=
  "/".intercalate ((Text.splitList 0x2F (partBytes bytes)).map Address.fileName)

/-- The bytes of the parameter that a part of an address gives; the value is empty without an
equals sign. -/
def parameter (bytes : List UInt8) : List UInt8 × List UInt8 :=
  let (key, value) := Text.cutList 0x3D bytes
  (key, value.getD [])

/-- The parameters that have a key. -/
def parameters (bytes : List UInt8) : List (List UInt8 × List UInt8) :=
  ((Text.splitList 0x26 bytes).map parameter).filter fun p => !(partBytes p.1).isEmpty

/-- Parameters as texts. -/
def Parameters.ofBytes (ps : List (List UInt8 × List UInt8)) : Parameters :=
  ps.map fun p => (decodePart p.1, decodePart p.2)

/-! ## Yes and no -/

/-- A number below 2^31, and zero for any other. -/
def bounded (n : Nat) : Nat := if n < Nat.pow 2 31 then n else 0

/-- The number that decimal digits write. -/
def decimalNumber (digits : List Char) : Nat :=
  bounded (digits.foldl (fun n d => 10 * n + (d.toNat - '0'.toNat)) 0)

/-- The number that hexadecimal digits write. -/
def hexNumber (digits : List Char) : Nat :=
  bounded ((digits.filterMap Hex.value?).foldl (fun n d => 16 * n + d) 0)

/-- The number that a text begins with, in decimal or, behind `0x`, in hexadecimal digits. -/
def leadingNumber (text : List Char) : Nat :=
  let decimal := decimalNumber (text.takeWhile Char.isDigit)
  match text with
  | '0' :: x :: rest =>
    let digits := rest.takeWhile fun c => (Hex.value? c).isSome
    if (x = 'x' ∨ x = 'X') ∧ digits ≠ [] then hexNumber digits else decimal
  | _ => decimal

/-- What a value means: a number means yes if its last byte is not zero, and some words mean
yes or no. -/
def meaning? (value : String) : Option Bool :=
  if value.toList.head?.any Char.isDigit then some (leadingNumber value.toList % 256 != 0)
  else if ["on", "yes", "true"].contains value.toLower then some true
  else if ["no", "off", "false"].contains value.toLower then some false
  else none

/-- The first value of a key means yes. -/
def Parameters.says (ps : Parameters) (key : String) : Bool :=
  (ps.lookup key).bind meaning? == some true

/-- The first value of a key means no. -/
def Parameters.denies (ps : Parameters) (key : String) : Bool :=
  (ps.lookup key).bind meaning? == some false

/-! ## Choices -/

/-- The mode after all modes that are asked for. -/
def Parameters.mode? (ps : Parameters) : Option Mode :=
  ((ps.filter fun p => p.1 == "mode").map Prod.snd).foldlM
    (fun before name =>
      (Mode.ofName? name).filter fun next => decide (next.MayFollow before))
    Mode.create

/-- The last driver that is asked for. -/
def Parameters.driver? (ps : Parameters) : Option Driver :=
  match ps.reverse.lookup "vfs" with
  | some name => Driver.ofName? name
  | none => some .shared

/-- Every cache that is asked for is a known one. -/
def Parameters.knowCaches (ps : Parameters) : Bool :=
  ps.all fun p => p.1 != "cache" || p.2 == "shared" || p.2 == "private"

/-! ## Addresses -/

/-- What begins an address. -/
def scheme : List UInt8 := Utf8.encode "file:"

/-- The names of this machine. -/
def machines : List (List UInt8) := [[], Utf8.encode "localhost"]

/-- What follows the name of the machine, if there is one and it is this machine. -/
def behindMachine? (bytes : List UInt8) : Option (List UInt8) :=
  match bytes with
  | 0x2F :: 0x2F :: rest =>
    let machine := rest.takeWhile fun b => b != 0x2F
    if machines.contains machine then some (rest.dropWhile fun b => b != 0x2F) else none
  | bytes => some bytes

namespace Address

/-- The address of a path and parameters.  A medium that does not keep the bytes around those
that are written has wide sectors. -/
def ofParameters? (path : String) (given : List (List UInt8 × List UInt8)) : Option Address := do
  let ps := Parameters.ofBytes given
  let mode ← ps.mode?
  let driver ← ps.driver?
  if ps.knowCaches then
    return {
      path, mode, driver
      fixed := ps.says "immutable"
      lockless := ps.says "nolock"
      fixedIndex := ps.says "readonly_shm"
      model := (given.find? fun p => decodePart p.1 == "modeof").map fun p => decodePath p.2
      sector := if ps.denies "psow" then 4096 else 512 }
  else none

/-- The address that a name gives, which is a path unless it begins with the scheme.  A null
character can stand in no name. -/
def ofName? (name : String) : Option Address :=
  let bytes := Utf8.encode name
  if bytes.contains 0 then none
  else if bytes.take scheme.length = scheme then do
    let rest ← behindMachine? (bytes.drop scheme.length)
    let (path, query) := Text.cutList 0x3F (Text.cutList 0x23 rest).1
    ofParameters? (decodePath path) (parameters (query.getD []))
  else some { path := name }

/-! ## How a file is opened -/

/-- The path of a database in memory. -/
def memoryPath : String := ":memory:"

/-- No driver is asked for the database: it goes with the program. -/
def isPrivate (a : Address) : Bool :=
  a.mode == .memory || a.path.isEmpty || a.path == memoryPath

/-- The database is not kept in a file. -/
def isTransient (a : Address) : Bool := a.isPrivate || a.driver == .memory

/-- The database may not be changed. -/
def isReadOnly (a : Address) : Bool := a.mode == .readOnly || (a.fixed && !a.isPrivate)

/-- A log of changes can be kept beside the file. -/
def canLog (a : Address) : Bool :=
  (a.driver == .shared || a.driver == .exclusive) && !a.lockless && !a.fixed

/-- The index of a log is no file of its own. -/
def hidesIndex (a : Address) : Bool := a.driver == .exclusive && a.mode != .readOnly

/-- A file for a lock is held. -/
def holdsLock (a : Address) : Bool := a.driver == .lockFile && !a.lockless && !a.fixed

end Address

end Database

end InFlight
