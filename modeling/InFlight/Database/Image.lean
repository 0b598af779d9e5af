import Std.Data.HashMap

/-!
# The pages of a database

A database is a sequence of pages of one size, numbered from one.  Its pages stand in a file one
after the other, but a page that was written to a log stands in place of that in the file.  What
neither has is filled with zeros.

How many pages there are follows from the size of the file, unless the log tells another number.

## Main definitions

* `InFlight.Database.Image` — a file with the pages of a log over it.
* `InFlight.Database.Image.page`, `InFlight.Database.Image.count` — its pages.
* `InFlight.Database.Image.flatten` — the file with the pages of the log in it.
-/

set_option relaxedAutoImplicit false
set_option autoImplicit false

namespace InFlight

namespace Database

/-! ## Contents -/

/-- A size of pages: a power of two between 512 and 65536. -/
def isPageSize (n : Nat) : Bool := (List.range 8).any fun i => n == 512 * Nat.pow 2 i

/-- So many zeros. -/
def zeros (size : Nat) : ByteArray := ⟨Array.replicate size 0⟩

/-- There are as many zeros as were asked for. -/
theorem size_zeros (size : Nat) : (zeros size).size = size := by
  simp [zeros, ByteArray.size]

/-- A content cut to a size, or filled up with zeros to it. -/
def resized (content : ByteArray) (size : Nat) : ByteArray :=
  if size ≤ content.size then content.extract 0 size
  else content ++ zeros (size - content.size)

/-- A resized content has the size that was asked for. -/
theorem size_resized (content : ByteArray) (size : Nat) : (resized content size).size = size := by
  unfold resized
  split
  · simp only [ByteArray.size_extract]; omega
  · rw [ByteArray.size_append, size_zeros]
    omega

/-- A content with a page in place of that with the same number. -/
def putPage (content : ByteArray) (number : Nat) (page : ByteArray) : ByteArray :=
  let start := (number - 1) * page.size
  resized content start ++ page ++ content.extract (start + page.size) content.size

/-! ## Images -/

/-- A file with the pages of a log over it: its content, the pages in the log, and the number of
pages that the log tells, zero if it tells none. -/
structure Image where
  content : ByteArray
  logged : Std.HashMap Nat ByteArray := {}
  told : Nat := 0

namespace Image

/-- How many pages of a size there are. -/
def count (i : Image) (pageSize : Nat) : Nat :=
  if i.told = 0 then (i.content.size + pageSize - 1) / pageSize else i.told

/-- The page of a size with a number. -/
def page (i : Image) (pageSize number : Nat) : ByteArray :=
  match i.logged[number]? with
  | some page => resized page pageSize
  | none => resized (i.content.extract ((number - 1) * pageSize) (number * pageSize)) pageSize

/-- A page has the size that was asked for. -/
theorem size_page (i : Image) (pageSize number : Nat) : (i.page pageSize number).size = pageSize := by
  unfold page
  split <;> exact size_resized _ _

/-- How many bytes a header takes. -/
def headerSize : Nat := 100

/-- The first bytes of the first page, as far as there are any. -/
def header (i : Image) : ByteArray := ((i.logged[1]?).getD i.content).extract 0 headerSize

/-- The file with the pages of the log in it, cut or filled up to the number of pages that the
log tells. -/
def flatten (i : Image) (pageSize : Nat) : ByteArray :=
  if i.told = 0 then i.content
  else
    let within := (i.logged.toList.filter fun p => decide (p.1 ≤ i.told)).mergeSort fun a b =>
      decide (a.1 ≤ b.1)
    resized (within.foldl (fun content p => putPage content p.1 p.2) i.content)
      (i.told * pageSize)

end Image

end Database

end InFlight
