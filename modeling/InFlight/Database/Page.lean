import InFlight.Database.Image
import InFlight.Database.Varint

/-!
# Pages

A database file is cut into pages of one size, numbered from one.  Most of them are nodes of
trees: a node holds cells, its leaves the entries of the tree and its inner nodes the numbers
of other pages with the dividers between them.

A node begins with a short header, behind which stand the positions of its cells in the order
of the entries.  The cells themselves fill the page from its end, in the order in which they
were added.

## Main definitions

* `InFlight.Database.NodeKind` — the kinds of nodes.
* `InFlight.Database.Cell` — a cell that is to be written.
* `InFlight.Database.writeNode` — the bytes of a page that is a node.
* `InFlight.Database.Pages` — a file cut into pages.
-/

set_option relaxedAutoImplicit false
set_option autoImplicit false

namespace InFlight

namespace Database

/-- The size of the pages that are written. -/
def pageSize : Nat := 4096

/-- The kinds of nodes: of a tree of rows or of an index, inner nodes or leaves. -/
inductive NodeKind where
  | rowInner
  | rowLeaf
  | indexInner
  | indexLeaf
deriving DecidableEq, Repr

/-- The byte that a node of a kind begins with. -/
def NodeKind.code : NodeKind → UInt8
  | rowInner => 5
  | rowLeaf => 13
  | indexInner => 2
  | indexLeaf => 10

/-- The kind of node that begins with a byte. -/
def NodeKind.ofCode? (code : Nat) : Option NodeKind :=
  [rowInner, rowLeaf, indexInner, indexLeaf].find? fun kind => kind.code.toNat == code

/-- The kind of a node is told by its first byte. -/
theorem NodeKind.ofCode?_code (kind : NodeKind) : ofCode? kind.code.toNat = some kind := by
  cases kind <;> rfl

/-- A node without children. -/
def NodeKind.isLeaf (kind : NodeKind) : Bool := kind == rowLeaf || kind == indexLeaf

/-- A node of a tree of rows. -/
def NodeKind.ofRows (kind : NodeKind) : Bool := kind == rowInner || kind == rowLeaf

/-! ## Writing -/

/-- A cell, and a rank that grows with the time when it was added. -/
structure Cell where
  content : List UInt8
  rank : Nat
deriving DecidableEq, Repr

/-- How much of a page a cell takes, its position included. -/
def Cell.room (c : Cell) : Nat := c.content.length + 2

/-- Where a cell begins on a page. -/
def position (cells : List Cell) (c : Cell) : Nat :=
  let before := cells.filter fun d => decide (d.rank ≤ c.rank)
  pageSize - before.foldl (fun n d => n + d.content.length) 0

/-- The bytes of a page: some bytes ahead of the node, the header of the node with the page of
its last child if it has children, the positions of the cells, and the cells. -/
def writeNode (kind : NodeKind) (ahead : List UInt8) (last : Option Nat) (cells : List Cell) :
    List UInt8 :=
  let contents := (cells.mergeSort fun a b => decide (b.rank ≤ a.rank)).flatMap Cell.content
  let front := ahead ++ [kind.code, 0, 0] ++ bytesOf 2 cells.length ++
    bytesOf 2 (pageSize - contents.length) ++ [0] ++
    (match last with
      | some page => bytesOf 4 page
      | none => []) ++
    cells.flatMap fun c => bytesOf 2 (position cells c)
  front ++ List.replicate (pageSize - front.length - contents.length) 0 ++ contents

/-! ## Reading -/

/-- A database cut into pages: its image, the size of a page, how many bytes at the end of every
page are not used, and how many pages there are. -/
structure Pages where
  image : Image
  size : Nat
  spare : Nat
  count : Nat

namespace Pages

/-- How much of a page is used. -/
def usable (ps : Pages) : Nat := ps.size - ps.spare

/-- The bytes of a page; what the file lacks of it is filled with zeros. -/
def page? (ps : Pages) (number : Nat) : Option ByteArray :=
  if number = 0 ∨ ps.count < number then none
  else some (ps.image.page ps.size number)

/-- There are pages for the numbers up to their count, and for no others. -/
theorem isSome_page? (ps : Pages) (number : Nat) :
    (ps.page? number).isSome = true ↔ 1 ≤ number ∧ number ≤ ps.count := by
  unfold page?
  split <;> simp <;> omega

end Pages

end Database

end InFlight
