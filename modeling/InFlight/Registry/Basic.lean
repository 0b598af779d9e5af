import Std.Data.TreeMap
import InFlight.Fingerprint.Lineage
import InFlight.Observation
import InFlight.Registry.Chain

/-!
# The registry of tasks in flight

The registry is an arena of *slots*, each tracking one task of one account.  The arena grows
to a fixed number of slots and is then recycled in place.  Two kinds of chains run through it:

* the *recency* chain holds every slot, the least recently touched one first;
* for each account that owns a slot, a chain of its slots in the order in which they were
  assigned to it.

## Main definitions

* `InFlight.Limits` — how many slots there are in all and for each account.
* `InFlight.Task` — what a slot tracks.
* `InFlight.Registry` — the arena, its links and the chains.
* `InFlight.Registry.recencyOrder`, `InFlight.Registry.slotsOf` — the two views of the chains.

## Design

Tasks and links are arrays of one size.  The chains of all accounts share one array of links,
since every slot has exactly one owner.
-/

set_option relaxedAutoImplicit false
set_option autoImplicit false

namespace InFlight

/-- How many slots there are in all, unless something else is set. -/
@[simp] def Limits.defaultGlobalSlots : Nat := 1000

/-- How many slots one account can own, unless something else is set. -/
@[simp] def Limits.defaultOwnerSlots : Nat := 50

/-- How many slots there are in all, and how many one account can own. -/
structure Limits where
  globalSlots : Nat := Limits.defaultGlobalSlots
  ownerSlots : Nat := Limits.defaultOwnerSlots
deriving DecidableEq, Repr, Inhabited

/-- Both limits raised to at least one: a registry without any slot would have nothing to
recycle and would grow forever. -/
def Limits.clamped (l : Limits) : Limits where
  globalSlots := max l.globalSlots 1
  ownerSlots := max l.ownerSlots 1

/-- What a slot tracks: the owner, the name it was last seen under, when, and the fingerprint
of the latest payload. -/
structure Task where
  owner : OwnerId
  name : String
  updatedAt : Int
  fingerprint : Fingerprint
deriving DecidableEq

/-- The arena of slots with its chains. -/
structure Registry where
  limits : Limits
  tasks : Array Task := #[]
  recencyLinks : Links := #[]
  recency : Chain := {}
  ownerLinks : Links := #[]
  owners : Std.TreeMap OwnerId Chain := ∅

namespace Registry

/-- The empty registry within the given limits, each raised to at least one. -/
def empty (limits : Limits) : Registry := { limits := limits.clamped }

/-- How many slots are in use. -/
def size (r : Registry) : Nat := r.tasks.size

/-- The slots from the least to the most recently touched one. -/
def recencyOrder (r : Registry) : List Nat := r.recency.toList r.recencyLinks

/-- The chain of an account; one that owns no slot has the empty chain. -/
def chainOf (r : Registry) (owner : OwnerId) : Chain := (r.owners[owner]?).getD {}

/-- The slots of an account in the order in which they were assigned to it. -/
def slotsOf (r : Registry) (owner : OwnerId) : List Nat := (r.chainOf owner).toList r.ownerLinks

/-- The owner of a slot, zero for a slot that does not exist. -/
def ownerAt (r : Registry) (i : Nat) : OwnerId := (r.tasks[i]?).elim 0 Task.owner

/-- When a slot was last touched, zero for a slot that does not exist. -/
def updatedAt (r : Registry) (i : Nat) : Int := (r.tasks[i]?).elim 0 Task.updatedAt

/-! ## Recency -/

/-- Takes a slot out of the recency chain. -/
def unlinkRecency (r : Registry) (i : Nat) : Registry :=
  let (links, chain) := r.recencyLinks.unlink r.recency i
  { r with recencyLinks := links, recency := chain }

/-- Puts a slot at the recent end of the recency chain. -/
def pushRecency (r : Registry) (i : Nat) : Registry :=
  let (links, chain) := r.recencyLinks.pushBack r.recency i
  { r with recencyLinks := links, recency := chain }

/-- Makes a slot the most recently touched one. -/
def touch (r : Registry) (i : Nat) : Registry :=
  if r.recency.last = some i then r else (r.unlinkRecency i).pushRecency i

/-! ## Ownership -/

/-- Puts a slot at the end of an account's chain. -/
def assign (r : Registry) (owner : OwnerId) (i : Nat) : Registry :=
  let (links, chain) := r.ownerLinks.pushBack (r.chainOf owner) i
  { r with ownerLinks := links, owners := r.owners.insert owner chain }

/-- Takes a slot out of an account's chain; an account without slots is forgotten. -/
def release (r : Registry) (owner : OwnerId) (i : Nat) : Registry :=
  let (links, chain) := r.ownerLinks.unlink (r.chainOf owner) i
  { r with
    ownerLinks := links
    owners := if chain.length = 0 then r.owners.erase owner else r.owners.insert owner chain }

end Registry

end InFlight
