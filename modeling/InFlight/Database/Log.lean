import InFlight.Database.Image
import InFlight.Database.Varint

/-!
# The log of changes

Changes of a database may be kept in a log beside its file until they are brought into it.
The log is a header and frames, each of which is a page with its number.  A frame that
completes a change tells how many pages the database has from then on.

Two running sums over all words seal the header and every frame.  What follows the first frame
that is not sealed counts for nothing, and so do frames of a change that is not complete.

## Main definitions

* `InFlight.Database.Log.sums` — the running sums.
* `InFlight.Database.Log.Frame`, `InFlight.Database.Log.frames` — the sealed frames.
* `InFlight.Database.Log.read?` — the frames of all changes that are complete.
* `InFlight.Database.Log.apply` — a content under frames.
* `InFlight.Database.Log.bringIn?` — a content with frames brought into it.
-/

set_option relaxedAutoImplicit false
set_option autoImplicit false

namespace InFlight

namespace Database

namespace Log

/-! ## Sums -/

/-- The word of four bytes, with the most significant one first or last. -/
def word (bigEndian : Bool) (a b c d : UInt8) : UInt32 :=
  UInt32.ofNat (natOf (if bigEndian then [a, b, c, d] else [d, c, b, a]))

/-- The words of bytes. -/
def words (bigEndian : Bool) : List UInt8 → List UInt32
  | a :: b :: c :: d :: rest => word bigEndian a b c d :: words bigEndian rest
  | _ => []

/-- The two sums after words in pairs. -/
def sums : UInt32 × UInt32 → List UInt32 → UInt32 × UInt32
  | s, a :: b :: rest =>
    let first := s.1 + a + s.2
    sums (first, s.2 + b + first) rest
  | s, _ => s

/-- The sums that eight bytes write. -/
def sumsOf (bytes : List UInt8) : UInt32 × UInt32 :=
  (UInt32.ofNat (natOf (bytes.take 4)), UInt32.ofNat (natOf ((bytes.drop 4).take 4)))

/-! ## Frames -/

/-- A page, and the number of pages of the database if the frame completes a change. -/
structure Frame where
  number : Nat
  count : Option Nat
  page : ByteArray

/-- How many bytes stand ahead of the page of a frame. -/
def frameHead : Nat := 24

/-- How a log is written: the order of bytes in its words, the size of its pages, and eight
bytes that mark its frames. -/
structure Form where
  bigEndian : Bool
  pageSize : Nat
  mark : List UInt8

/-- The frames that bytes hold behind the given sums, of which there are at most `left`. -/
def frames (f : Form) : Nat → UInt32 × UInt32 → List UInt8 → List Frame
  | 0, _, _ => []
  | left + 1, s, bytes =>
    let head := bytes.take frameHead
    let page := (bytes.drop frameHead).take f.pageSize
    let number := natOf (head.take 4)
    let count := natOf ((head.drop 4).take 4)
    let s := sums (sums s (words f.bigEndian (head.take 8))) (words f.bigEndian page)
    if page.length < f.pageSize ∨ number = 0 ∨ (head.drop 8).take 8 ≠ f.mark ∨
        sumsOf (head.drop 16) ≠ s then
      []
    else
      { number, count := if count = 0 then none else some count, page := ⟨page.toArray⟩ } ::
        frames f left s (bytes.drop (frameHead + f.pageSize))

/-- The frames up to the last one that completes a change. -/
def complete (fs : List Frame) : List Frame :=
  (fs.reverse.dropWhile fun f => f.count.isNone).reverse

/-! ## The log -/

/-- How many bytes the header of a log takes. -/
def headerSize : Nat := 32

/-- What a log begins with; the last bit tells the order of bytes. -/
def magic : Nat := 0x377F0682

/-- The version of all logs. -/
def version : Nat := 3007000

/-- The frames of all changes that are complete; none if the log is of another version. -/
def read? (log : ByteArray) : Option (List Frame) :=
  let bytes := log.toList
  let header := bytes.take headerSize
  let start := natOf (header.take 4)
  let f : Form := {
    bigEndian := start % 2 = 1
    pageSize := natOf ((header.drop 8).take 4)
    mark := (header.drop 16).take 8 }
  let s := sums (0, 0) (words f.bigEndian (header.take 24))
  if log.size ≤ headerSize ∨ start / 2 ≠ magic / 2 ∨ isPageSize f.pageSize = false ∨
      sumsOf (header.drop 24) ≠ s then
    some []
  else if natOf ((header.drop 4).take 4) ≠ version then none
  else
    let left := (log.size - headerSize) / (frameHead + f.pageSize)
    some (complete (frames f left s (bytes.drop headerSize)))

/-- The image of a content under frames that complete their changes: of two frames with one
number the later counts, and the last one tells how many pages there are. -/
def apply (content : ByteArray) (fs : List Frame) : Image where
  content := content
  logged := fs.foldl (fun logged f => logged.insert f.number f.page) {}
  told := (fs.getLast?.bind Frame.count).getD 0

/-- The most bytes that a database may have beyond its file and its log. -/
def slack : Nat := 65536

/-- The file with the frames brought into it; none if the frames tell of more pages than the
file and the log can have together, or have pages of another size. -/
def bringIn? (content : ByteArray) (fs : List Frame) (pageSize : Nat) : Option ByteArray :=
  let image := apply content fs
  let size := image.told * pageSize
  if fs.any fun f => f.page.size != pageSize then none
  else if content.size + slack + fs.length * pageSize < size then none
  else some (image.flatten pageSize)

end Log

end Database

end InFlight
