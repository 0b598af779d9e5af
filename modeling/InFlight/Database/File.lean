import InFlight.Database.Schema.Catalog
import InFlight.Database.Tree

/-!
# Database files

A database file is a sequence of pages behind a header of one hundred bytes.  The header tells
the size of the pages, how many there are, and how changes are made: in a log beside the file,
or in the file itself with a journal of what was there before.

A file of at most one byte holds nothing yet; it is taken for an empty database.

## Main definitions

* `InFlight.Database.Header`, `InFlight.Database.Header.read?` — what a header tells.
* `InFlight.Database.File`, `InFlight.Database.File.ofImage?` — a file that can be read.
* `InFlight.Database.headerBytes` — the header of a file that is written.
-/

set_option relaxedAutoImplicit false
set_option autoImplicit false

namespace InFlight

namespace Database

/-! ## The header -/

/-- What every database file begins with. -/
def magic : List UInt8 := Utf8.encode "SQLite format 3\x00"

/-- The shares of a page that cells may take, which are the same in all files. -/
def shares : List UInt8 := [64, 32, 32]

/-- What a header tells. -/
structure Header where
  pageSize : Nat
  /-- How many pages there are. -/
  pages : Nat
  /-- How many bytes at the end of every page are not used. -/
  spare : Nat
  /-- Changes are made in a log beside the file. -/
  logged : Bool
  /-- The file may be changed by this program. -/
  writable : Bool
  /-- Indexes may have an order backward. -/
  ordered : Bool
  texts : TextForm
deriving DecidableEq, Repr

/-- The number in some bytes of a header. -/
def field (bytes : List UInt8) (start size : Nat) : Nat := natOf ((bytes.drop start).take size)

/-- The form of texts that a number stands for. -/
def textForm (code : Nat) : TextForm :=
  match code % 4 with
  | 2 => .utf16 false
  | 3 => .utf16 true
  | _ => .utf8

/-- The size of pages that the first bytes of a file tell. -/
def toldPageSize (bytes : List UInt8) : Nat :=
  let code := field bytes 16 2
  if code = 1 then 65536 else code

/-- What the first bytes of a database tell; none if no database begins so. -/
def Header.read? (image : Image) : Option Header :=
  let bytes := image.header.toList
  let pageSize := toldPageSize bytes
  let spare := field bytes 20 1
  let whole := image.count pageSize
  let told := if field bytes 24 4 = field bytes 92 4 then field bytes 28 4 else 0
  if bytes.length < 100 ∨ bytes.take 16 ≠ magic ∨ 2 < field bytes 19 1 ∨
      (bytes.drop 21).take 3 ≠ shares ∨ isPageSize pageSize = false ∨ pageSize - spare < 480 ∨
      whole < told ∨ 4 < field bytes 44 4 % 256 then
    none
  else
    some {
      pageSize, spare
      pages := if told = 0 then whole else told
      logged := field bytes 19 1 = 2
      writable := field bytes 18 1 ≤ 2
      ordered := decide (4 ≤ field bytes 44 4 % 256)
      texts := textForm (field bytes 56 4) }

/-- The number of the format that headers are written in. -/
def formatNumber : Nat := 3045000

/-- A content with a header that tells of one change more. -/
def changed (h : Header) (content : ByteArray) : ByteArray :=
  let count := bytesOf 4 ((field (content.extract 0 Image.headerSize).toList 24 4 + 1) % Nat.pow 2 32)
  content.extract 0 24 ++ ⟨count.toArray⟩ ++ ⟨(bytesOf 4 h.pages).toArray⟩ ++
    content.extract 32 92 ++ ⟨count.toArray⟩ ++ ⟨(bytesOf 4 formatNumber).toArray⟩ ++
    content.extract Image.headerSize content.size

/-- The header of a file with so many pages that so many statements have laid out. -/
def headerBytes (logged : Bool) (pages statements : Nat) : List UInt8 :=
  let format : Nat := if logged then 2 else 1
  let changes := if logged then 2 else statements
  magic ++ bytesOf 2 pageSize ++ bytesOf 1 format ++ bytesOf 1 format ++ [0] ++ shares ++
    bytesOf 4 changes ++ bytesOf 4 pages ++ bytesOf 8 0 ++ bytesOf 4 statements ++ bytesOf 4 4 ++
    bytesOf 8 0 ++ bytesOf 4 1 ++ bytesOf 32 0 ++ bytesOf 4 changes ++ bytesOf 4 formatNumber

/-! ## Reading -/

/-- A file that can be read. -/
structure File where
  header : Header
  pages : Pages
  schema : Schema

namespace File

/-- The file of an image that is more than one byte, and which may be changed or not; none if what
it says of itself makes no sense. -/
def ofImage? (image : Image) (changeable : Bool) : Option File := do
  let header ← Header.read? image
  let pages : Pages :=
    { image, size := header.pageSize, spare := header.spare, count := header.pages }
  let outlook : Outlook :=
    { pages := header.pages, ordered := header.ordered, checked := changeable && header.writable }
  return { header, pages, schema := ← Schema.read? pages header.texts outlook }

/-- How the texts of a file are written. -/
def texts (f : File) : TextForm := f.header.texts

/-- The names of all tables and indexes of a file, but for the catalogue. -/
def names (f : File) : List String :=
  (f.schema.tables.filter fun t => t.name != catalogueName).flatMap fun t =>
    t.name :: t.indexes.map Index.name

/-- A file holds no tables. -/
def isEmpty (f : File) : Bool := f.names.isEmpty

end File

end Database

end InFlight
