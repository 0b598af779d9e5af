import InFlight.Database.Node

/-!
# Trees of pages as they are written

The rows of a table are the entries of a tree.  Each has a key and a record; a record that is
too long for a page goes on in a chain of other pages.  An inner node lists its children in the
order of their keys.

Writing fills the leaves one after the other.  An entry of an index that stands between two nodes
is itself the divider between them, while a divider of rows repeats the last key before it.

## Main definitions

* `InFlight.Database.Growth` — pages that are added behind those that are fixed.
* `InFlight.Database.Growth.rowTree`, `InFlight.Database.Growth.indexTree` — writing a tree.
-/

set_option relaxedAutoImplicit false
set_option autoImplicit false

namespace InFlight

namespace Database

/-! ## Writing -/

/-- Pages that are added behind so many fixed ones. -/
structure Growth where
  fixed : Nat
  pages : List (List UInt8) := []

/-- A page that is a child, and the divider behind it; there is none behind the last one. -/
structure Branch where
  page : Nat
  divider : List UInt8

namespace Growth

/-- The number of the next page. -/
def next (g : Growth) : Nat := g.fixed + g.pages.length + 1

/-- Adds a page. -/
def add (g : Growth) (page : List UInt8) : Growth := { g with pages := g.pages ++ [page] }

/-- How many bytes of a record a page of a chain holds, behind the number of the next page. -/
def chainRoom : Nat := pageSize - 4

/-- Adds the chain of pages for the rest of a record. -/
def addChain (g : Growth) (bytes : List UInt8) : Growth :=
  if h : bytes = [] then g
  else
    let here := bytes.take chainRoom
    let rest := bytes.drop chainRoom
    let link := if rest.isEmpty then 0 else g.next + 1
    (g.add (bytesOf 4 link ++ here ++ List.replicate (chainRoom - here.length) 0)).addChain rest
  termination_by bytes.length
  decreasing_by
    have := List.length_pos_iff.2 h
    simp only [List.length_drop, chainRoom, pageSize]
    omega

/-- The cell of a row, and the pages with the chain of its record. -/
def rowCell (g : Growth) (key : Nat) (record : List UInt8) : Growth × List UInt8 :=
  let front := varint record.length ++ varint key
  let size := heldOf pageSize true record.length
  if size = record.length then (g, front ++ record)
  else
    (g.addChain (record.drop size), front ++ record.take size ++ bytesOf 4 g.next)

/-- The cells of rows in order, and the pages with the chains of their records. -/
def rowCells (g : Growth) : List (Nat × List UInt8) → Growth × List (Nat × List UInt8)
  | [] => (g, [])
  | (key, record) :: rows =>
    let (g, cell) := g.rowCell key record
    let (g, cells) := g.rowCells rows
    (g, (key, cell) :: cells)

/-- An inner node with its children in order. -/
def innerNode (kind : NodeKind) (branches : List Branch) : List UInt8 :=
  let cells := branches.dropLast.zipIdx.map fun (b, rank) =>
    ({ content := bytesOf 4 b.page ++ b.divider, rank } : Cell)
  writeNode kind [] (branches.getLast?.map Branch.page) cells

/-- A list cut into so many parts of nearly one length. -/
def parts {α : Type} (count : Nat) (l : List α) : List (List α) :=
  (List.range count).map fun i =>
    (l.take ((i + 1) * l.length / count)).drop (i * l.length / count)

/-- How many children an inner node has at most. -/
def maxChildren : Nat := 150

/-- How many nodes so many children need. -/
def nodesFor (children : Nat) : Nat := (children + maxChildren - 1) / maxChildren

/-- The root above children in order, and the pages with the inner nodes between, of which
there are at most `left` levels. -/
def rootAbove (kind : NodeKind) : Nat → Growth → List Branch → Growth × List UInt8
  | 0, g, branches => (g, innerNode kind branches)
  | left + 1, g, branches =>
    if branches.length ≤ maxChildren then (g, innerNode kind branches)
    else
      let (g, above) := (parts (nodesFor branches.length) branches).foldl
        (fun (g, above) part =>
          let divider := (part.getLast?.map Branch.divider).getD []
          (g.add (innerNode kind part), above ++ [⟨g.next, divider⟩]))
        (g, ([] : List Branch))
      rootAbove kind left g above

/-- Numbers items from zero in order. -/
def ranked (contents : List (List UInt8)) : List Cell :=
  contents.zipIdx.map fun (content, rank) => { content, rank }

/-- How much room a leaf has. -/
def leafRoom : Nat := pageSize - 8

/-- Cells of rows put into leaves, each of which is as full as it can be. -/
def fillLeaves (filled : List (Nat × List UInt8)) (used : Nat) :
    List (Nat × List UInt8) → List (List (Nat × List UInt8))
  | [] => [filled]
  | cell :: rest =>
    let room := cell.2.length + 2
    if used + room ≤ leafRoom then fillLeaves (filled ++ [cell]) (used + room) rest
    else filled :: fillLeaves [cell] room rest

/-- The root of the tree of rows in order, and the pages with the rest of it. -/
def rowTree (g : Growth) (rows : List (Nat × List UInt8)) : Growth × List UInt8 :=
  let (g, cells) := g.rowCells rows
  let leaf (cells : List (Nat × List UInt8)) := writeNode .rowLeaf [] none
    (ranked (cells.map Prod.snd))
  match fillLeaves [] 0 cells with
  | [cells] => (g, leaf cells)
  | leaves =>
    let (g, branches) := leaves.foldl
      (fun (g, branches) cells =>
        let divider := varint ((cells.getLast?.map Prod.fst).getD 0)
        (g.add (leaf cells), branches ++ [⟨g.next, divider⟩]))
      (g, ([] : List Branch))
    rootAbove .rowInner branches.length g branches

/-- The root of the tree of an index with its entries in order, and the pages with the rest of
it. -/
def indexTree (g : Growth) (cells : List Cell) : Growth × List UInt8 :=
  if cells.foldl (fun n c => n + c.room) 0 ≤ leafRoom then (g, writeNode .indexLeaf [] none cells)
  else
    let leaves := parts (nodesFor cells.length) cells
    let (g, branches) := leaves.zipIdx.foldl
      (fun (g, branches) (cells, i) =>
        let isLast := i + 1 == leaves.length
        let kept := if isLast then cells else cells.dropLast
        let divider := (cells.getLast?.map Cell.content).getD []
        (g.add (writeNode .indexLeaf [] none kept), branches ++ [⟨g.next, divider⟩]))
      (g, ([] : List Branch))
    rootAbove .indexInner branches.length g branches

end Growth

end Database

end InFlight
