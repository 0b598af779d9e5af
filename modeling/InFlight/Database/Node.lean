import InFlight.Database.Page

/-!
# Nodes as they are read

A page that is a node tells its kind and how many cells it has, and where each of them begins.
A cell of an inner node begins with the page of a child; behind the cells there is one child
more.  In a tree of rows an inner cell goes on with a key; every other cell holds a record, which
in a leaf of a tree of rows stands behind its key.

Of a long record only a part stands in the cell.  The rest follows in a chain of other pages,
each of which begins with the number of the next.

Whatever the bytes of a page are, reading them is defined: a cell may begin anywhere on the page,
and behind the page there are zeros.  Only what could not have been written as a node or a record
counts as damage.

## Main definitions

* `InFlight.Database.Node`, `InFlight.Database.Pages.node?` — a node.
* `InFlight.Database.Node.child`, `InFlight.Database.Node.key` — what its cells tell.
* `InFlight.Database.Payload`, `InFlight.Database.Node.payload` — the record of a cell.
* `InFlight.Database.Pages.read?` — some bytes of a record.
-/

set_option relaxedAutoImplicit false
set_option autoImplicit false

namespace InFlight

namespace Database

/-! ## Nodes -/

/-- A page that is a node: where it begins on the page, its kind, and how many cells it has. -/
structure Node where
  page : ByteArray
  start : Nat
  kind : NodeKind
  count : Nat

/-- How many cells a node has at most. -/
def maxCells (pageSize : Nat) : Nat := (pageSize - 8) / 6

namespace Pages

/-- The node on a page; that of the first page stands behind the header of the file. -/
def node? (ps : Pages) (number : Nat) : Option Node := do
  let page ← ps.page? number
  let start := if number = 1 then Image.headerSize else 0
  let kind ← NodeKind.ofCode? (byteAt page start)
  let count := natAt page (start + 3) 2
  if count ≤ maxCells ps.size then some { page, start, kind, count } else none

/-- The node on a page that is a child in a tree of rows or of an index; it has a cell. -/
def childNode? (ps : Pages) (ofRows : Bool) (number : Nat) : Option Node :=
  (ps.node? number).filter fun node => node.count != 0 && node.kind.ofRows == ofRows

end Pages

namespace Node

/-- Where a cell begins. -/
def cell (node : Node) (i : Nat) : Nat :=
  natAt node.page (node.start + (if node.kind.isLeaf then 8 else 12) + 2 * i) 2 % node.page.size

/-- The page of a child of an inner node; the last one stands in the header of the node. -/
def child (node : Node) (i : Nat) : Nat :=
  natAt node.page (if i < node.count then node.cell i else node.start + 8) 4

/-- The key at a position, as a signed number. -/
def keyAt (node : Node) (i : Nat) : Int := ((varintAt node.page i).1 : Int).bmod (Nat.pow 2 64)

/-- The key of a cell in a tree of rows. -/
def key (node : Node) (i : Nat) : Int :=
  if node.kind.isLeaf then node.keyAt (lengthAt node.page (node.cell i)).2
  else node.keyAt (node.cell i + 4)

end Node

/-! ## Records in cells -/

/-- The record of a cell: its length, where it begins on the page, how many bytes of it the cell
holds, and whether it is a row. -/
structure Payload where
  page : ByteArray
  start : Nat
  length : Nat
  held : Nat
  isRow : Bool

/-- How many bytes of a record a cell of a leaf of rows or of an index holds at most, when so many
bytes of a page are used. -/
def maxHeld (usable : Nat) (isRow : Bool) : Nat :=
  if isRow then usable - 35 else (usable - 12) * 64 / 255 - 23

/-- How many bytes of a record of some length a cell holds. -/
def heldOf (usable : Nat) (isRow : Bool) (length : Nat) : Nat :=
  if length ≤ maxHeld usable isRow then length
  else
    let least := (usable - 12) * 32 / 255 - 23
    let fitted := least + (length - least) % (usable - 4)
    if fitted ≤ maxHeld usable isRow then fitted else least

/-- A cell holds no more of a record than there is. -/
theorem heldOf_le (usable : Nat) (isRow : Bool) (length : Nat) :
    heldOf usable isRow length ≤ max length ((usable - 12) * 32 / 255 - 23) := by
  unfold heldOf
  split
  · exact Nat.le_max_left _ _
  · simp only
    split
    · have := Nat.mod_le (length - ((usable - 12) * 32 / 255 - 23)) (usable - 4)
      omega
    · exact Nat.le_max_right _ _

/-- The record of a cell, when so many bytes of a page are used. -/
def Node.payload (node : Node) (usable i : Nat) : Payload :=
  let isRow := node.kind.ofRows
  let (length, behind) := lengthAt node.page (node.cell i + if node.kind.isLeaf then 0 else 4)
  { page := node.page
    start := if isRow then (varintAt node.page behind).2 else behind
    length
    held := heldOf usable isRow length
    isRow }

namespace Payload

/-- How many bytes of a record there are on its page. -/
def onPage (p : Payload) : Nat := min p.held (p.page.size - p.start)

end Payload

namespace Pages

/-- So many bytes of the chain that begins with a page, where so many bytes are skipped before
them; at most `left` more pages are met. -/
def chain? (ps : Pages) : Nat → Nat → Nat → Nat → Option ByteArray
  | _, _, _, 0 => some .empty
  | 0, _, _, _ => none
  | left + 1, number, skipped, length => do
    let page ← ps.page? number
    let room := ps.usable - 4
    let next := natAt page 0 4
    if room ≤ skipped then ps.chain? left next (skipped - room) length
    else
      let here := min length (room - skipped)
      return page.extract (4 + skipped) (4 + skipped + here) ++
        (← ps.chain? left next 0 (length - here))

/-- So many bytes of a record behind so many others. -/
def read? (ps : Pages) (p : Payload) (offset length : Nat) : Option ByteArray := do
  if ps.usable - p.held < p.start then none
  else
    let here := min length (p.held - offset)
    let onPage := p.page.extract (p.start + offset) (p.start + offset + here)
    let beyond := length - here
    let next := natAt p.page (p.start + p.held) 4
    let pages := (offset + length) / (ps.usable - 4) + 2
    return onPage ++ (← ps.chain? pages next (offset - p.held) beyond)

/-- The file has room for so many bytes of one record. -/
def hasRoom (ps : Pages) (length : Nat) : Bool := decide (length ≤ ps.size * ps.count)

end Pages

end Database

end InFlight
