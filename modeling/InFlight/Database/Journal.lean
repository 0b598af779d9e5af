import InFlight.Database.Image
import InFlight.Database.Varint
import InFlight.Text.Split

/-!
# The journal of a change

Before a page of a database changes in its file, what stood there is written to a journal.
When a change was not completed, its journal is still there and takes the file back to where
it was: the file gets its former number of pages, and each page that the journal holds.

A journal is made of sections.  Each begins with a header, and every page in it ends with a
sum over some of its bytes.  What follows the first page with another sum in a section counts
for nothing, and so do later sections.  A change of more than one database has a file that
names the journals of all of them, and each of these journals ends with the name of that file.

## Main definitions

* `InFlight.Database.Journal.pageSum` — the sum that a page ends with.
* `InFlight.Database.Journal.undo` — the content before the change.
* `InFlight.Database.Journal.leader?` — the file that names all journals of a change.
-/

set_option relaxedAutoImplicit false
set_option autoImplicit false

namespace InFlight

namespace Database

namespace Journal

/-- What every section begins with, and what follows the name of a leader. -/
def magic : List UInt8 := [0xD9, 0xD5, 0x05, 0xF9, 0x20, 0xA1, 0x63, 0xD7]

/-- The number that stands for as many pages as there are bytes for. -/
def allPages : Nat := Nat.pow 2 32 - 1

/-- The sum of a page: that of every two hundredth byte, counted from the end of the page, and
of a number that is given with the section. -/
def pageSum (start : Nat) (page : ByteArray) : Nat :=
  let ranks := (List.range (page.size / 200)).map fun i => page.size - 200 * (i + 1)
  let counted := ranks.filter fun rank => rank != 0
  counted.foldl (fun n rank => n + ((page.data[rank]?).getD 0).toNat) start % Nat.pow 2 32

/-- The number of four bytes at a position. -/
def number (journal : ByteArray) (start : Nat) : Nat :=
  natOf (journal.extract start (start + 4)).toList

/-! ## Undoing -/

/-- How a journal is written: the size of a sector, of which a header fills one, the size of
the pages, and how many of them the file had. -/
structure Form where
  sector : Nat
  pageSize : Nat
  pages : Nat

/-- The form of a journal; none if no journal begins so.  A journal fills at least one sector of
the medium, and it may leave the size of pages to the database. -/
def form? (journal : ByteArray) (mediumSector pageSize : Nat) : Option Form :=
  let sector := number journal 20
  let size := if number journal 24 = 0 then pageSize else number journal 24
  if journal.size < mediumSector ∨ (journal.extract 0 8).toList ≠ magic ∨
      isPageSize size = false ∨ sector < 32 ∨ 65536 < sector ∨ sector ≠ Nat.pow 2 (Nat.log2 sector) then
    none
  else some { sector, pageSize := size, pages := number journal 16 }

/-- How many bytes a page takes in a journal, with its number and its sum. -/
def Form.room (f : Form) : Nat := f.pageSize + 8

/-- No page has the number of that which locks are taken on. -/
def Form.lockPage (f : Form) : Nat := Nat.pow 2 30 / f.pageSize + 1

/-- Where a section ends. -/
inductive Stop where
  /-- Behind its last page. -/
  | behind (position : Nat)
  /-- At a page that is not sealed; nothing behind it counts. -/
  | broken
deriving DecidableEq, Repr

/-- The pages with their numbers from a position on, where `left` more stand in the section,
and where the section ends.  A page that the file did not have needs no sum. -/
def pagesFrom (f : Form) (journal : ByteArray) (sum : Nat) :
    Nat → Nat → List (Nat × ByteArray) × Stop
  | 0, start => ([], .behind start)
  | left + 1, start =>
    let rank := number journal start
    let stop := start + 4 + f.pageSize
    let page := journal.extract (start + 4) stop
    if journal.size < stop ∨ rank = 0 ∨ rank = f.lockPage then ([], .broken)
    else if f.pages < rank then pagesFrom f journal sum left (start + f.room)
    else if journal.size < stop + 4 ∨ number journal stop ≠ pageSum sum page then ([], .broken)
    else
      let (pages, stop) := pagesFrom f journal sum left (start + f.room)
      ((rank, page) :: pages, stop)

/-- The pages of all sections from a position on, of which there are at most `left`. -/
def sectionsFrom (f : Form) (journal : ByteArray) : Nat → Nat → List (Nat × ByteArray)
  | 0, _ => []
  | left + 1, start =>
    let start := (start + f.sector - 1) / f.sector * f.sector
    if journal.size < start + f.sector ∨ (journal.extract start (start + 8)).toList ≠ magic then []
    else
      let told := number journal (start + 8)
      let count := if told = allPages then (journal.size - f.sector) / f.room else told
      match pagesFrom f journal (number journal (start + 12)) count (start + f.sector) with
      | (pages, .behind stop) => pages ++ sectionsFrom f journal left stop
      | (pages, .broken) => pages

/-- A content with so many pages.  It is filled up only if a whole page is missing. -/
def recut (content : ByteArray) (pageSize pages : Nat) : ByteArray :=
  let size := pages * pageSize
  if size < content.size ∨ content.size + pageSize ≤ size then resized content size else content

/-- The most bytes of zeros that are filled in. -/
def maxFill : Nat := Nat.pow 2 26

/-- The content before the change; of two pages with one number the last counts. -/
def undo (content journal : ByteArray) (mediumSector pageSize : Nat) : ByteArray :=
  match form? journal mediumSector pageSize with
  | none => content
  | some f =>
    let pages := min f.pages ((content.size + journal.size + maxFill) / f.pageSize)
    (sectionsFrom f journal (journal.size / f.sector + 1) 0).foldl
      (fun content (rank, page) => putPage content rank page)
      (recut content f.pageSize pages)

/-! ## Leaders -/

/-- The longest name of a leader, in bytes. -/
def maxLeaderBytes : Nat := 512

/-- The sum of a name, the bytes of which count as signed numbers. -/
def nameSum (name : List UInt8) : Nat :=
  (name.foldl (fun (n : Int) b => n + (b.toNat : Int).bmod 256) 0 % Int.pow 2 32).toNat

/-- The names in a content, each of which ends with a zero byte. -/
def names (content : List UInt8) : List (List UInt8) :=
  (Text.splitList 0 content).filter fun name => !name.isEmpty

/-- The name of the leader that a journal ends with; a zero byte ends the name. -/
def leader? (journal : ByteArray) : Option (List UInt8) :=
  let stop := journal.size - 16
  let length := number journal stop
  let name := (journal.extract (stop - length) stop).toList
  if journal.size < 16 ∨ length = 0 ∨ maxLeaderBytes < length ∨ stop < length ∨
      (journal.extract (journal.size - 8) journal.size).toList ≠ magic ∨
      number journal (stop + 4) ≠ nameSum name then
    none
  else some (name.takeWhile fun b => b != 0)

end Journal

end Database

end InFlight
