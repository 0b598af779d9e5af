/-!
# Chains threaded through an arena

The elements of an arena are numbered from zero.  A *chain* is a doubly linked list of some of
them: each element of the arena stores its two neighbours, and the chain stores its two ends
and its length.  Several chains can be threaded through one array of links, as long as no
element belongs to two of them.

Taking an element out and putting one at the back change a bounded number of links.

## Main definitions

* `InFlight.Neighbours`, `InFlight.Links` — the links of one element and of all elements.
* `InFlight.Chain` — the ends and the length of a chain.
* `InFlight.Links.unlink`, `InFlight.Links.pushBack` — the two operations.
* `InFlight.Chain.toList` — the elements of a chain from first to last, the view in which the
  operations are `List.erase` and appending at the end.
* `InFlight.Chain.Spells` — a chain and its links spell a given list.

## Design

Links are followed for at most as many steps as the arena has elements, so the view is total;
a chain that spells a list without repetition is walked to its end.
-/

set_option relaxedAutoImplicit false
set_option autoImplicit false

namespace InFlight

/-- The neighbours of an element in its chain. -/
structure Neighbours where
  prev : Option Nat := none
  next : Option Nat := none
deriving DecidableEq, Repr

/-- The neighbours of every element of the arena. -/
abbrev Links := Array Neighbours

/-- The ends and the length of a chain. -/
structure Chain where
  first : Option Nat := none
  last : Option Nat := none
  length : Nat := 0
deriving DecidableEq, Repr

namespace Links

/-- The neighbours of element `i`; an element that does not exist has none. -/
def neighbours (links : Links) (i : Nat) : Neighbours := links.getD i {}

/-- Element `i`, if there is one, gets `next` as its next neighbour. -/
def setNext (links : Links) (i : Option Nat) (next : Option Nat) : Links :=
  match i with
  | some i => links.modify i fun n => { n with next }
  | none => links

/-- Element `i`, if there is one, gets `prev` as its previous neighbour. -/
def setPrev (links : Links) (i : Option Nat) (prev : Option Nat) : Links :=
  match i with
  | some i => links.modify i fun n => { n with prev }
  | none => links

/-- Takes element `i` out of the chain: its neighbours are joined, and an end of the chain
that it was becomes the neighbour on the other side. -/
def unlink (links : Links) (chain : Chain) (i : Nat) : Links × Chain :=
  let n := links.neighbours i
  ( ((links.setNext n.prev n.next).setPrev n.next n.prev).setIfInBounds i {},
    { first := if n.prev.isNone then n.next else chain.first
      last := if n.next.isNone then n.prev else chain.last
      length := chain.length - 1 })

/-- Puts element `i` behind the last element of the chain. -/
def pushBack (links : Links) (chain : Chain) (i : Nat) : Links × Chain :=
  ( (links.setNext chain.last (some i)).setIfInBounds i { prev := chain.last, next := none },
    { first := if chain.last.isNone then some i else chain.first
      last := some i
      length := chain.length + 1 })

/-! ## Walking a chain -/

/-- The elements met from `start` on along the next neighbours, at most `fuel` of them. -/
def walk (links : Links) : Nat → Option Nat → List Nat
  | 0, _ => []
  | _ + 1, none => []
  | fuel + 1, some i => i :: walk links fuel (links.neighbours i).next

end Links

namespace Chain

/-- The elements of a chain from first to last. -/
def toList (chain : Chain) (links : Links) : List Nat := links.walk links.size chain.first

/-- The links of `xs` join its elements in order, the first of them behind `prev` and the last
of them before `next`. -/
def Linked (links : Links) : Option Nat → List Nat → Option Nat → Prop
  | _, [], _ => True
  | prev, i :: rest, next =>
    i < links.size ∧ links.neighbours i = { prev, next := rest.head?.or next } ∧
      Linked links (some i) rest next

/-- The chain and its links spell the list `xs`: no element occurs twice, the ends and the
length are those of `xs`, and neighbours in `xs` are neighbours in the arena. -/
structure Spells (chain : Chain) (links : Links) (xs : List Nat) : Prop where
  nodup : xs.Nodup
  linked : Linked links none xs none
  first : chain.first = xs.head?
  last : chain.last = xs.getLast?
  length : chain.length = xs.length

/-- The empty chain spells the empty list. -/
theorem spells_nil (links : Links) : Spells {} links [] :=
  ⟨List.nodup_nil, trivial, rfl, rfl, rfl⟩

end Chain

end InFlight
