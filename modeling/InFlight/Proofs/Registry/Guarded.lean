import InFlight.Registry.Activity

/-!
# Recording and ranking under guard

The operations on a registry are total: to read an element that is not there gives something, to
change one changes nothing, an account without a chain has an empty one, and where no slot is found
to take over a new one is made.  Here are the same operations once more, in the order in which they
are carried out, but each of them stops with a fault where it could only go on in one of these ways.

## Main definitions

* `InFlight.Fault` — what could go wrong.
* `InFlight.Guarded.record` — recording a task, stopped by the first fault.
* `InFlight.Guarded.rank` — ranking the accounts, stopped by the first fault.

## Design

The guards are those that the steps themselves need, nothing is checked ahead: an element exists
when it is read or changed, a chain is there and not empty when a slot is taken from it, and the
row at the position that is kept for an account is that of the account.  A new slot is only made
where neither limit is reached; at a limit there has to be a slot to take over.  A walk along a
chain is given as many steps as there are slots, and has to reach the end of the chain with them.

Counts of slots and accounts go through all of them, so there is nothing in them to guard.
-/

set_option relaxedAutoImplicit false
set_option autoImplicit false

namespace InFlight

/-- What could go wrong while a task is recorded or accounts are ranked. -/
inductive Fault where
  /-- An element is read or written that the array does not have. -/
  | outOfBounds (i : Nat)
  /-- A walk goes on for longer than there are slots. -/
  | endlessWalk
  /-- A slot is to be taken from an account that has no chain. -/
  | noChain (owner : OwnerId)
  /-- A slot is to be taken from a chain whose length is zero. -/
  | emptyChain (owner : OwnerId)
  /-- An account owns as many slots as it may, and none of them is the oldest. -/
  | noOldest (owner : OwnerId)
  /-- All slots are in use, and none of them is the least recently touched. -/
  | noVictim
  /-- The position kept for an account is that of another account's row. -/
  | wrongRow (owner : OwnerId)
deriving DecidableEq, Repr

namespace Guarded

/-! ## Arrays -/

section Arrays

variable {α : Type}

/-- Reads an element. -/
def read (a : Array α) (i : Nat) : Except Fault α :=
  match a[i]? with
  | some x => .ok x
  | none => .error (.outOfBounds i)

/-- Changes an element. -/
def update (a : Array α) (i : Nat) (f : α → α) : Except Fault (Array α) :=
  if i < a.size then .ok (a.modify i f) else .error (.outOfBounds i)

/-- Changes an element, if there is one to change. -/
def updateSome (a : Array α) (i : Option Nat) (f : α → α) : Except Fault (Array α) :=
  match i with
  | some i => update a i f
  | none => .ok a

end Arrays

/-! ## Chains -/

/-- Takes an element out from between its neighbours, and tells which they were. -/
def detach (links : Links) (i : Nat) : Except Fault (Links × Neighbours) := do
  let n ← read links i
  let links ← updateSome links n.prev fun m => { m with next := n.next }
  let links ← updateSome links n.next fun m => { m with prev := n.prev }
  let links ← update links i fun _ => {}
  return (links, n)

/-- Puts an element behind another one, if there is one. -/
def attach (links : Links) (last : Option Nat) (i : Nat) : Except Fault Links := do
  let links ← updateSome links last fun m => { m with next := some i }
  update links i fun _ => { prev := last, next := none }

/-- The elements met from `start` on, of which there may be at most so many. -/
def walk (links : Links) : Nat → Option Nat → Except Fault (List Nat)
  | _, none => .ok []
  | 0, some _ => .error .endlessWalk
  | left + 1, some i => do
    let n ← read links i
    let rest ← walk links left n.next
    return i :: rest

/-! ## Recency -/

/-- Takes a slot out of the recency chain, of which it may be an end. -/
def unlinkRecency (r : Registry) (i : Nat) : Except Fault Registry := do
  let (links, n) ← detach r.recencyLinks i
  return { r with
    recencyLinks := links
    recency :=
      { first := if n.prev.isNone then n.next else r.recency.first
        last := if n.next.isNone then n.prev else r.recency.last
        length := r.recency.length - 1 } }

/-- Puts a slot at the recent end of the recency chain. -/
def pushRecency (r : Registry) (i : Nat) : Except Fault Registry := do
  let links ← attach r.recencyLinks r.recency.last i
  return { r with
    recencyLinks := links
    recency :=
      { first := if r.recency.last.isNone then some i else r.recency.first
        last := some i
        length := r.recency.length + 1 } }

/-- Makes a slot the most recently touched one. -/
def touch (r : Registry) (i : Nat) : Except Fault Registry :=
  if r.recency.last = some i then .ok r else unlinkRecency r i >>= fun r => pushRecency r i

/-! ## Ownership -/

/-- Puts a slot at the end of an account's chain, which may be a new one. -/
def assign (r : Registry) (owner : OwnerId) (i : Nat) : Except Fault Registry := do
  let chain := r.chainOf owner
  let links ← attach r.ownerLinks chain.last i
  return { r with
    ownerLinks := links
    owners := r.owners.insert owner
      { first := if chain.first.isNone then some i else chain.first
        last := some i
        length := chain.length + 1 } }

/-- Takes a slot out of an account's chain, which must be there and have a slot. -/
def release (r : Registry) (owner : OwnerId) (i : Nat) : Except Fault Registry := do
  let (links, n) ← detach r.ownerLinks i
  match r.owners[owner]? with
  | none => .error (.noChain owner)
  | some chain =>
    if chain.length = 0 then .error (.emptyChain owner)
    else
      let chain : Chain :=
        { first := if chain.first = some i then n.next else chain.first
          last := if chain.last = some i then n.prev else chain.last
          length := chain.length - 1 }
      return { r with
        ownerLinks := links
        owners := if chain.length = 0 then r.owners.erase owner else r.owners.insert owner chain }

/-! ## The choice -/

/-- The first of some slots whose task a payload continues. -/
def matching (r : Registry) (fp : Fingerprint) : List Nat → Except Fault (Option Nat)
  | [] => .ok none
  | i :: rest => do
    let t ← read r.tasks i
    if t.fingerprint.continues fp then return some i else matching r fp rest

/-- The one of two slots that was touched longer ago, the first of them on a tie. -/
def older (r : Registry) (best : Option Nat) (i : Nat) : Except Fault (Option Nat) :=
  match best with
  | none => .ok (some i)
  | some b => do
    let t ← read r.tasks b
    let u ← read r.tasks i
    return if t.updatedAt ≤ u.updatedAt then some b else some i

/-- The slot for a task of `owner`, and why it is that one.  A new slot is made only where there
is room for one. -/
def choose (r : Registry) (owner : OwnerId) (fp : Fingerprint) : Except Fault Outcome := do
  let slots ← walk r.ownerLinks r.size (r.chainOf owner).first
  match ← matching r fp slots with
  | some i => return .continued i
  | none =>
    if r.limits.ownerSlots ≤ (r.chainOf owner).length then
      match ← slots.foldlM (older r) none with
      | some i => return .replacedOwnOldest i
      | none => .error (.noOldest owner)
    else if r.limits.globalSlots ≤ r.size then
      match r.recency.first with
      | some i => do
        let t ← read r.tasks i
        return .evictedLru i t.owner
      | none => .error .noVictim
    else return .allocated r.size

/-! ## Its effect -/

/-- A slot tracks another payload of its owner. -/
def overwrite (r : Registry) (i : Nat) (name : String) (now : Int) (fp : Fingerprint) :
    Except Fault Registry := do
  let tasks ← update r.tasks i fun t => { t with name, updatedAt := now, fingerprint := fp }
  return { r with tasks }

/-- A slot passes from one account to another. -/
def transfer (r : Registry) (i : Nat) (source target : OwnerId) : Except Fault Registry :=
  if source = target then .ok r
  else do
    let r ← release r source i
    let tasks ← update r.tasks i fun t => { t with owner := target }
    assign { r with tasks } target i

/-- A new slot for a task. -/
def allocate (r : Registry) (task : Task) : Except Fault Registry := do
  let i := r.size
  let r ← assign { r with
    tasks := r.tasks.push task
    recencyLinks := r.recencyLinks.push {}
    ownerLinks := r.ownerLinks.push {} } task.owner i
  pushRecency r i

/-- The registry after a choice is carried out. -/
def apply (r : Registry) (owner : OwnerId) (name : String) (fp : Fingerprint) (now : Int) :
    Outcome → Except Fault Registry
  | .continued i | .replacedOwnOldest i => do touch (← overwrite r i name now fp) i
  | .evictedLru i previous => do
    touch (← overwrite (← transfer r i previous owner) i name now fp) i
  | .allocated _ => allocate r { owner, name, updatedAt := now, fingerprint := fp }

/-- Records a task with the given payload. -/
def record (r : Registry) (owner : OwnerId) (name : String) (payload : ByteArray) (now : Int) :
    Except Fault (Registry × Outcome) := do
  let fp := Fingerprint.compute payload
  let outcome ← choose r owner fp
  let r ← apply r owner name fp now outcome
  return (r, outcome)

/-! ## Rankings -/

/-- Counts one more slot of an account. -/
def add (t : Ranking.Tally) (owner : OwnerId) (name : String) : Except Fault Ranking.Tally :=
  match t.positions[owner]? with
  | some p => do
    let row ← read t.rows p
    if row.owner = owner then
      let rows ← update t.rows p fun row => { row with activeSlots := row.activeSlots + 1 }
      return { t with rows }
    else .error (.wrongRow owner)
  | none =>
    return {
      rows := t.rows.push { owner, name, activeSlots := 1 }
      positions := t.positions.insert owner t.rows.size }

/-- The ranking for a window, at most `limit` rows of it. -/
def rank (r : Registry) (window : Int) (limit : Option Nat) (now : Int) :
    Except Fault (List Ranking.Row) := do
  let active := r.activeTasks (now - Ranking.effectiveWindow window)
  let t ← active.foldlM (fun t task => add t task.owner task.name) Ranking.Tally.empty
  return t.finish limit

end Guarded

end InFlight
