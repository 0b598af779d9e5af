import InFlight.Registry.Basic

/-!
# Recording a task

Recording finds or makes room for a task of an account, in this order:

1. the first of the account's slots whose task the payload continues;
2. if the account owns as many slots as it may, the one of them that was touched longest ago,
   the earliest assigned one on a tie;
3. if all slots are in use, the least recently touched slot of all, whoever owns it;
4. a new slot.

The slot chosen then tracks the task and becomes the most recently touched one.

## Main definitions

* `InFlight.Outcome` — which of the four cases it was, and the slot.
* `InFlight.Registry.choose` — the choice.
* `InFlight.Registry.apply` — what it does to the registry.
* `InFlight.Registry.record` — both together, for a payload.
-/

set_option relaxedAutoImplicit false
set_option autoImplicit false

namespace InFlight

/-- What recording a task did. -/
inductive Outcome where
  /-- The task continues the one in this slot. -/
  | continued (slot : Nat)
  /-- The account owned as many slots as it may; its oldest one was overwritten. -/
  | replacedOwnOldest (slot : Nat)
  /-- All slots were in use; the least recently touched one was taken over. -/
  | evictedLru (slot : Nat) (previousOwner : OwnerId)
  /-- A new slot was made. -/
  | allocated (slot : Nat)
deriving DecidableEq, Repr

/-- The slot that now tracks the task. -/
def Outcome.slot : Outcome → Nat
  | .continued slot => slot
  | .replacedOwnOldest slot => slot
  | .evictedLru slot _ => slot
  | .allocated slot => slot

namespace Registry

/-! ## The choice -/

/-- Whether a payload continues the task in a slot. -/
def continuedBy (r : Registry) (fp : Fingerprint) (i : Nat) : Bool :=
  (r.tasks[i]?).any fun t => t.fingerprint.continues fp

/-- The slot touched longest ago, the first of them on a tie. -/
def oldest? (r : Registry) (slots : List Nat) : Option Nat :=
  slots.foldl
    (fun best i =>
      match best with
      | some b => if r.updatedAt b ≤ r.updatedAt i then some b else some i
      | none => some i)
    none

/-- The slot that continues, if there is one. -/
def matching? (r : Registry) (owner : OwnerId) (fp : Fingerprint) : Option Nat :=
  (r.slotsOf owner).find? (r.continuedBy fp)

/-- The account's oldest slot, if the account owns as many as it may. -/
def ownVictim? (r : Registry) (owner : OwnerId) : Option Nat :=
  if r.limits.ownerSlots ≤ (r.chainOf owner).length then r.oldest? (r.slotsOf owner) else none

/-- The least recently touched slot, if all slots are in use. -/
def victim? (r : Registry) : Option Nat :=
  if r.limits.globalSlots ≤ r.size then r.recency.first else none

/-- The slot for a task of `owner` with the given fingerprint, and why it is that one. -/
def choose (r : Registry) (owner : OwnerId) (fp : Fingerprint) : Outcome :=
  match r.matching? owner fp with
  | some i => .continued i
  | none =>
    match r.ownVictim? owner with
    | some i => .replacedOwnOldest i
    | none =>
      match r.victim? with
      | some i => .evictedLru i (r.ownerAt i)
      | none => .allocated r.size

/-! ## Its effect -/

/-- A slot tracks another payload of its owner. -/
def overwrite (r : Registry) (i : Nat) (name : String) (now : Int) (fp : Fingerprint) :
    Registry :=
  { r with
    tasks := r.tasks.modify i fun t => { t with name, updatedAt := now, fingerprint := fp } }

/-- A slot passes from one account to another. -/
def transfer (r : Registry) (i : Nat) (source target : OwnerId) : Registry :=
  if source = target then r
  else
    let r := r.release source i
    { r with tasks := r.tasks.modify i fun t => { t with owner := target } }.assign target i

/-- A new slot for a task. -/
def allocate (r : Registry) (task : Task) : Registry :=
  let i := r.size
  let r := { r with
    tasks := r.tasks.push task
    recencyLinks := r.recencyLinks.push {}
    ownerLinks := r.ownerLinks.push {} }
  (r.assign task.owner i).pushRecency i

/-- The registry after a choice is carried out. -/
def apply (r : Registry) (owner : OwnerId) (name : String) (fp : Fingerprint) (now : Int) :
    Outcome → Registry
  | .continued i => (r.overwrite i name now fp).touch i
  | .replacedOwnOldest i => (r.overwrite i name now fp).touch i
  | .evictedLru i previous => ((r.transfer i previous owner).overwrite i name now fp).touch i
  | .allocated _ => r.allocate { owner, name, updatedAt := now, fingerprint := fp }

/-- Records a task with the given fingerprint. -/
def recordFingerprint (r : Registry) (owner : OwnerId) (name : String) (fp : Fingerprint)
    (now : Int) : Registry × Outcome :=
  let outcome := r.choose owner fp
  (r.apply owner name fp now outcome, outcome)

/-- Records a task with the given payload. -/
def record (r : Registry) (owner : OwnerId) (name : String) (payload : ByteArray) (now : Int) :
    Registry × Outcome :=
  r.recordFingerprint owner name (Fingerprint.compute payload) now

/-- Records an observation. -/
def observe (r : Registry) (o : Observation) (now : Int) : Registry :=
  (r.record o.owner o.name o.payload now).1

end Registry

end InFlight
