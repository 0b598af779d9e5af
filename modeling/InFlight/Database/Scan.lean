import InFlight.Database.Node
import InFlight.Database.Series

/-!
# Going through trees

The entries of a tree are met in the order of their keys or in the opposite order.  The entries of
a tree of rows stand in its leaves; those of an index stand in its inner nodes as well, each
between two children.  The pages of a tree are only read when an entry below them is due, so
damage to a page is no harm to the entries before it.

A row is found by its key from the root: in every node the keys are halved until one child is left
over.  A search that comes from the row with the key before it first looks at the entry behind
that row.

No path from a root is longer than twenty pages.

## Main definitions

* `InFlight.Database.Entry` — a cell of a node that is an entry.
* `InFlight.Database.Pages.entries` — the entries of a tree.
* `InFlight.Database.Cursor`, `InFlight.Database.Pages.seek?` — finding a row by its key.
-/

set_option relaxedAutoImplicit false
set_option autoImplicit false

namespace InFlight

namespace Database

/-- A cell of a node that is an entry of a tree. -/
structure Entry where
  node : Node
  index : Nat

namespace Entry

/-- The key of an entry of a tree of rows. -/
def key (e : Entry) : Int := e.node.key e.index

/-- The record of an entry, when so many bytes of a page are used. -/
def payload (e : Entry) (usable : Nat) : Payload := e.node.payload usable e.index

end Entry

/-- How many pages there may be below a root on one path. -/
def maxDepth : Nat := 19

/-! ## All entries -/

/-- What is met in an inner node: a child, or an entry between two children. -/
inductive NodePart where
  | child (number : Nat)
  | own (index : Nat)
deriving DecidableEq, Repr

namespace Node

/-- The parts of an inner node in order. -/
def parts (node : Node) : List NodePart :=
  (List.range (node.count + 1)).flatMap fun i =>
    .child (node.child i) :: if i < node.count ∧ node.kind.ofRows = false then [.own i] else []

/-- The entries of a leaf in order. -/
def leafEntries (node : Node) : List Entry := (List.range node.count).map fun i => ⟨node, i⟩

/-- A list in order or backward. -/
def ordered {α : Type} (backward : Bool) (l : List α) : List α := if backward then l.reverse else l

/-- The entries of a node and below it, ahead of a series; at most `left` pages stand below it on
one path. -/
def walk (ps : Pages) (backward : Bool) : Nat → Node → (Unit → Series Entry) → Series Entry
  | left, node, rest =>
    if node.kind.isLeaf then Series.ahead (ordered backward node.leafEntries) rest
    else
      match left with
      | 0 => .broken
      | left + 1 =>
        (ordered backward node.parts).foldr
          (fun part rest _ =>
            match part with
            | .own i => .item ⟨node, i⟩ rest
            | .child number =>
              match ps.childNode? node.kind.ofRows number with
              | some child => walk ps backward left child rest
              | none => .broken)
          rest ()

end Node

namespace Pages

/-- The root of a tree of rows or of an index. -/
def root? (ps : Pages) (ofRows : Bool) (number : Nat) : Option Node :=
  (ps.node? number).filter fun node =>
    node.kind.ofRows == ofRows && (node.count != 0 || node.kind.isLeaf || number == 1)

/-- The entries of the tree of rows or of the index with its root on a page. -/
def entries (ps : Pages) (ofRows : Bool) (root : Nat) (backward : Bool) : Series Entry :=
  match ps.root? ofRows root with
  | some node => node.walk ps backward maxDepth fun _ => .done
  | none => .broken

end Pages

/-! ## Finding a row -/

/-- Where a search has come to: an entry of a leaf, and the nodes above it with the number of the
child that was taken, the nearest first. -/
structure Cursor where
  here : Entry
  above : List Entry

/-- How a search in a node ends: the cell that was looked at last, whether it is the one that is
searched for, and the child to go on with. -/
structure Hit where
  last : Nat
  exact : Bool
  child : Nat
deriving DecidableEq, Repr

/-- Where a search in a tree ends, and whether it has found what is searched for. -/
structure Finding where
  cursor : Cursor
  exact : Bool

namespace Node

/-- The position behind bytes with their high bit set and one without; none if there is no such
byte among the next ones, of which there are so many. -/
def behindLength? (page : ByteArray) : Nat → Nat → Option Nat
  | 0, _ => none
  | left + 1, i => if byteAt page i < 128 then some (i + 1) else behindLength? page left (i + 1)

/-- The key of a cell, where it can be told: the length of a record must end on its page. -/
def soundKey? (node : Node) (i : Nat) : Option Int :=
  let start := node.cell i
  if node.kind.isLeaf then
    (behindLength? node.page (node.page.size - start) start).map node.keyAt
  else some (node.keyAt (start + 4))

/-- Halves the cells from `low` up to `high` until the one that is searched for is met, or none is
left; at most `left` times.  How a cell stands to that one can be told or not. -/
def halve? (order? : Nat → Option Ordering) : Nat → Nat → Nat → Nat → Option Hit
  | 0, last, low, _ => some { last, exact := false, child := low }
  | left + 1, last, low, high =>
    if high ≤ low then some { last, exact := false, child := low }
    else do
      let middle := (low + high - 1) / 2
      match ← order? middle with
      | .lt => halve? order? left middle (middle + 1) high
      | .gt => halve? order? left middle low middle
      | .eq => return { last := middle, exact := true, child := middle }

/-- Halves all cells of a node. -/
def search? (node : Node) (order? : Node → Nat → Option Ordering) : Option Hit :=
  halve? (order? node) (node.count + 1) 0 0 node.count

end Node

namespace Cursor

/-- The first entry below a node. -/
def firstBelow? (ps : Pages) : Nat → Node → List Entry → Option Cursor
  | left, node, above =>
    if node.kind.isLeaf then some { here := ⟨node, 0⟩, above }
    else
      match left with
      | 0 => none
      | left + 1 => do
        let child ← ps.childNode? true (node.child 0)
        firstBelow? ps left child (⟨node, 0⟩ :: above)

/-- The first entry behind what is below the nodes of a path, if there is one; none for damage. -/
def nextAbove? (ps : Pages) : List Entry → Option (Option Cursor)
  | [] => some none
  | ⟨node, i⟩ :: above =>
    if i < node.count then do
      let child ← ps.childNode? true (node.child (i + 1))
      return some (← firstBelow? ps (maxDepth - above.length - 1) child (⟨node, i + 1⟩ :: above))
    else nextAbove? ps above

/-- The entry behind that of a cursor, if there is one; none for damage. -/
def next? (ps : Pages) (c : Cursor) : Option (Option Cursor) :=
  if c.here.index + 1 < c.here.node.count then
    some (some { c with here := ⟨c.here.node, c.here.index + 1⟩ })
  else nextAbove? ps c.above

/-- No leaf comes behind that of a cursor. -/
def isAtEnd (c : Cursor) : Bool :=
  c.here.node.kind.isLeaf && c.above.all fun e => decide (e.node.count ≤ e.index)

end Cursor

namespace Pages

/-- Searches below a node; none for damage.  In an inner node of an index the entry that is searched
for may stand itself. -/
def seekBelow? (ps : Pages) (order? : Node → Nat → Option Ordering) :
    Nat → Node → List Entry → Option Finding
  | left, node, above => do
    let hit ← node.search? order?
    if node.kind.isLeaf || (hit.exact && !node.kind.ofRows) then
      return { cursor := { here := ⟨node, hit.last⟩, above }, exact := hit.exact }
    else
      match left with
      | 0 => none
      | left + 1 =>
        let child ← ps.childNode? node.kind.ofRows (node.child hit.child)
        ps.seekBelow? order? left child (⟨node, hit.child⟩ :: above)

/-- Searches a tree; none for damage, and nothing in a tree without entries. -/
def find? (ps : Pages) (ofRows : Bool) (root : Nat) (order? : Node → Nat → Option Ordering) :
    Option (Option Finding) := do
  let node ← ps.root? ofRows root
  if node.count = 0 then return none
  return some (← ps.seekBelow? order? maxDepth node [])

/-- Searches an index from where a search before has ended.  In the last leaf there is no need to
begin at the root. -/
def findFrom? (ps : Pages) (root : Nat) (from? : Option Cursor)
    (order? : Node → Nat → Option Ordering) : Option (Option Finding) :=
  let fromRoot := ps.find? false root order?
  match from? with
  | some c =>
    let node := c.here.node
    let isReached (i : Nat) : Bool := (order? node i).any fun o => o != .gt
    if !c.isAtEnd then fromRoot
    else if c.here.index + 1 == node.count && isReached c.here.index then
      some (some { cursor := c, exact := order? node c.here.index == some .eq })
    else if !c.above.isEmpty && isReached 0 then
      (ps.seekBelow? order? (maxDepth - c.above.length) node c.above).map some
    else fromRoot
  | none => fromRoot

/-- The row with a key in the tree with a root, if there is one; none for damage.  The search may
come from another row. -/
def seek? (ps : Pages) (root : Nat) (key : Int) (from? : Option Cursor) : Option (Option Cursor) := do
  match from? with
  | some c =>
    if c.here.key = key then return some c
    if c.here.key + 1 = key then
      match ← c.next? ps with
      | some next => if next.here.key = key then return some next
      | none => pure ()
  | none => pure ()
  let found ← ps.find? true root fun node i =>
    (node.soundKey? i).map fun found => compare found key
  return (found.filter Finding.exact).map Finding.cursor

end Pages

end Database

end InFlight
