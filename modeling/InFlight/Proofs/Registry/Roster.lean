import Mathlib.Logic.Function.Basic
import Mathlib.Tactic.Lemma
import InFlight.Registry.Record

/-!
# The registry as plain lists

A *roster* holds the same tasks as a registry, with lists in place of chains: the tasks in
arena order, the slots in order of recency, and for each account that owns a slot the list of
its slots.  Recording on a roster is stated with list operations alone.

## Main definitions

* `InFlight.Roster`, `InFlight.Roster.empty` — tasks, recency and ownership as lists.
* `InFlight.Roster.choose`, `InFlight.Roster.apply`, `InFlight.Roster.record` — recording a task.
* `InFlight.Registry.roster` — the roster that a registry stands for.
* `InFlight.Call`, `InFlight.Registry.run`, `InFlight.Roster.run` — recording one task after
  another, with the outcomes.
* `InFlight.Roster.Chooses` — the four cases of a choice, with what is known in each.

## Main results

* `InFlight.Roster.chooses_choose` — with room for at least one slot, one of the four cases
  applies to the choice.

## Design

The accounts with slots form a finite map, given by its look-up function: an account without a
slot is not in the map, which is not the same as being in it with an empty list.
-/

set_option relaxedAutoImplicit false
set_option autoImplicit false

namespace InFlight

/-- Tasks in arena order, slots by recency, and the slots of each account that owns one. -/
structure Roster where
  limits : Limits
  tasks : List Task := []
  recency : List Nat := []
  owned : OwnerId → Option (List Nat) := fun _ => none

namespace Roster

/-- The empty roster within the given limits, each raised to at least one. -/
def empty (limits : Limits) : Roster := { limits := limits.clamped }

/-- The slots of an account in the order in which they were assigned to it. -/
def slotsOf (r : Roster) (owner : OwnerId) : List Nat := (r.owned owner).getD []

/-- The owner of a slot, zero for a slot that does not exist. -/
def ownerAt (r : Roster) (i : Nat) : OwnerId := (r.tasks[i]?).elim 0 Task.owner

/-- When a slot was last touched, zero for a slot that does not exist. -/
def updatedAt (r : Roster) (i : Nat) : Int := (r.tasks[i]?).elim 0 Task.updatedAt

/-- Whether a payload continues the task in a slot. -/
def continuedBy (r : Roster) (fp : Fingerprint) (i : Nat) : Bool :=
  (r.tasks[i]?).any fun t => t.fingerprint.continues fp

/-! ## The choice -/

/-- The first slot of the account that continues, if there is one. -/
def matching? (r : Roster) (owner : OwnerId) (fp : Fingerprint) : Option Nat :=
  (r.slotsOf owner).find? (r.continuedBy fp)

/-- The account's slot touched longest ago, the first of them on a tie, if the account owns as
many as it may. -/
def ownVictim? (r : Roster) (owner : OwnerId) : Option Nat :=
  if r.limits.ownerSlots ≤ (r.slotsOf owner).length then
    (r.slotsOf owner).minOn? r.updatedAt
  else none

/-- The least recently touched slot, if all slots are in use. -/
def victim? (r : Roster) : Option Nat :=
  if r.limits.globalSlots ≤ r.tasks.length then r.recency.head? else none

/-- The slot for a task of `owner` with the given fingerprint, and why it is that one. -/
def choose (r : Roster) (owner : OwnerId) (fp : Fingerprint) : Outcome :=
  match r.matching? owner fp with
  | some i => .continued i
  | none =>
    match r.ownVictim? owner with
    | some i => .replacedOwnOldest i
    | none =>
      match r.victim? with
      | some i => .evictedLru i (r.ownerAt i)
      | none => .allocated r.tasks.length

/-! ## Its effect -/

/-- Slot `i` leaves the slots of an account, and an account left without a slot is dropped. -/
def release (r : Roster) (owner : OwnerId) (i : Nat) : Roster :=
  let rest := (r.slotsOf owner).erase i
  { r with owned := Function.update r.owned owner (if rest = [] then none else some rest) }

/-- Slot `i` comes last among the slots of an account. -/
def assign (r : Roster) (owner : OwnerId) (i : Nat) : Roster :=
  { r with owned := Function.update r.owned owner (some (r.slotsOf owner ++ [i])) }

/-- Slot `i` tracks a task and comes last in recency. -/
def track (r : Roster) (i : Nat) (task : Task) : Roster :=
  { r with tasks := r.tasks.set i task, recency := r.recency.erase i ++ [i] }

/-- Slot `i` passes from an account to that of the task it tracks from now on. -/
def takeOver (r : Roster) (i : Nat) (source : OwnerId) (task : Task) : Roster :=
  ((r.release source i).assign task.owner i).track i task

/-- A new slot tracks a task. -/
def allocate (r : Roster) (task : Task) : Roster :=
  { r with
    tasks := r.tasks ++ [task]
    recency := r.recency ++ [r.tasks.length] }.assign task.owner r.tasks.length

/-- The roster after a choice is carried out. -/
def apply (r : Roster) (task : Task) : Outcome → Roster
  | .continued i => r.track i task
  | .replacedOwnOldest i => r.track i task
  | .evictedLru i previous =>
    if previous = task.owner then r.track i task else r.takeOver i previous task
  | .allocated _ => r.allocate task

/-- Records a task with the given fingerprint. -/
def recordFingerprint (r : Roster) (owner : OwnerId) (name : String) (fp : Fingerprint)
    (now : Int) : Roster × Outcome :=
  let outcome := r.choose owner fp
  (r.apply { owner, name, updatedAt := now, fingerprint := fp } outcome, outcome)

/-- Records a task with the given payload. -/
def record (r : Roster) (owner : OwnerId) (name : String) (payload : ByteArray) (now : Int) :
    Roster × Outcome :=
  r.recordFingerprint owner name (Fingerprint.compute payload) now

end Roster

/-- The roster that a registry stands for. -/
def Registry.roster (r : Registry) : Roster where
  limits := r.limits
  tasks := r.tasks.toList
  recency := r.recencyOrder
  owned := fun owner => (r.owners[owner]?).map fun chain => chain.toList r.ownerLinks

/-! ## Runs -/

/-- One task to record. -/
structure Call where
  owner : OwnerId
  name : String
  payload : ByteArray
  now : Int

/-- What a slot tracks after the call. -/
def Call.task (c : Call) : Task where
  owner := c.owner
  name := c.name
  updatedAt := c.now
  fingerprint := Fingerprint.compute c.payload

/-- Records one task after another and lists the outcomes. -/
def Registry.run (r : Registry) : List Call → Registry × List Outcome
  | [] => (r, [])
  | c :: calls =>
    let (r, outcome) := r.record c.owner c.name c.payload c.now
    let (r, outcomes) := r.run calls
    (r, outcome :: outcomes)

/-- Records one task after another and lists the outcomes. -/
def Roster.run (r : Roster) : List Call → Roster × List Outcome
  | [] => (r, [])
  | c :: calls =>
    let (r, outcome) := r.record c.owner c.name c.payload c.now
    let (r, outcomes) := r.run calls
    (r, outcome :: outcomes)

namespace Roster

variable {r : Roster} {owner o : OwnerId} {fp : Fingerprint} {i : Nat} {task : Task}

/-! ## The slots of an account after an update -/

/-- Before any call no account has slots. -/
@[simp]
lemma slotsOf_empty (limits : Limits) : (empty limits).slotsOf o = [] := rfl

/-- Releasing a slot drops it from the list of the account, and the list if it was the last one. -/
lemma owned_release : (r.release owner i).owned = Function.update r.owned owner
    (if (r.slotsOf owner).erase i = [] then none else some ((r.slotsOf owner).erase i)) := rfl

/-- Assigning a slot puts it at the end of the list of the account. -/
lemma owned_assign : (r.assign owner i).owned =
    Function.update r.owned owner (some (r.slotsOf owner ++ [i])) := rfl

/-- Releasing a slot leaves the tasks as they are. -/
@[simp]
lemma tasks_release : (r.release owner i).tasks = r.tasks := rfl

/-- Assigning a slot leaves the tasks as they are. -/
@[simp]
lemma tasks_assign : (r.assign owner i).tasks = r.tasks := rfl

/-- Releasing a slot leaves the slots of all other accounts as they are. -/
lemma slotsOf_release : (r.release owner i).slotsOf o =
    if o = owner then (r.slotsOf owner).erase i else r.slotsOf o := by
  by_cases ho : o = owner
  · subst ho
    rw [if_pos rfl, slotsOf, owned_release, Function.update_self]
    by_cases hrest : (r.slotsOf o).erase i = []
    · rw [if_pos hrest, hrest]
      rfl
    · rw [if_neg hrest]
      rfl
  · simp [release, slotsOf, ho]

/-- Assigning a slot leaves the slots of all other accounts as they are. -/
lemma slotsOf_assign : (r.assign owner i).slotsOf o =
    if o = owner then r.slotsOf owner ++ [i] else r.slotsOf o := by
  by_cases ho : o = owner
  · subst ho
    simp [assign, slotsOf]
  · simp [assign, slotsOf, ho]

/-- Tracking a task leaves the slots of every account as they are. -/
@[simp]
lemma slotsOf_track : (r.track i task).slotsOf o = r.slotsOf o := rfl

/-- A slot taken over from another account changes hands, and no other slot does. -/
lemma slotsOf_takeOver {source : OwnerId} (h : source ≠ task.owner) :
    (r.takeOver i source task).slotsOf o =
      if o = task.owner then r.slotsOf o ++ [i]
      else if o = source then (r.slotsOf o).erase i
      else r.slotsOf o := by
  rw [takeOver, slotsOf_track, slotsOf_assign, slotsOf_release, slotsOf_release]
  by_cases ho : o = task.owner
  · subst ho
    simp [h.symm]
  · by_cases hs : o = source
    · subst hs
      simp [ho]
    · simp [ho, hs]

/-- A new slot comes last among those of its account. -/
lemma slotsOf_allocate : (r.allocate task).slotsOf o =
    if o = task.owner then r.slotsOf o ++ [r.tasks.length] else r.slotsOf o := by
  rw [allocate, slotsOf_assign]
  by_cases ho : o = task.owner
  · subst ho
    rfl
  · simp only [ho, if_false]
    rfl

/-! ## The cases of a choice -/

/-- The choice of a slot, case by case, with what is known in each. -/
inductive Chooses (r : Roster) (owner : OwnerId) (fp : Fingerprint) : Outcome → Prop
  | continued {i : Nat} (hmatch : r.matching? owner fp = some i) :
    Chooses r owner fp (.continued i)
  | replacedOwnOldest {i : Nat} (hmatch : r.matching? owner fp = none)
    (hfull : r.limits.ownerSlots ≤ (r.slotsOf owner).length)
    (holdest : (r.slotsOf owner).minOn? r.updatedAt = some i) :
    Chooses r owner fp (.replacedOwnOldest i)
  | evictedLru {i : Nat} (hmatch : r.matching? owner fp = none)
    (hroom : (r.slotsOf owner).length < r.limits.ownerSlots)
    (hfull : r.limits.globalSlots ≤ r.tasks.length) (hleast : r.recency.head? = some i) :
    Chooses r owner fp (.evictedLru i (r.ownerAt i))
  | allocated (hmatch : r.matching? owner fp = none)
    (hroom : (r.slotsOf owner).length < r.limits.ownerSlots)
    (hspace : r.tasks.length < r.limits.globalSlots) :
    Chooses r owner fp (.allocated r.tasks.length)

/-- With room for at least one slot in all and for each account, and every slot in the recency
list, one of the four cases applies to the choice.

**Proof sketch.** An account at its limit owns a slot, so the oldest one exists; an arena that
is full has a slot, so the recency list has a head. -/
theorem chooses_choose (ho : 0 < r.limits.ownerSlots) (hg : 0 < r.limits.globalSlots)
    (hr : r.recency.length = r.tasks.length) : r.Chooses owner fp (r.choose owner fp) := by
  unfold choose
  split
  case h_1 i hmatch => exact .continued hmatch
  case h_2 hmatch =>
    unfold ownVictim? victim?
    by_cases hfull : r.limits.ownerSlots ≤ (r.slotsOf owner).length
    · have hne : r.slotsOf owner ≠ [] := by
        rintro hnil
        simp [hnil] at hfull
        omega
      obtain ⟨i, hi⟩ := Option.isSome_iff_exists.1
        (List.isSome_minOn?_iff.2 hne : ((r.slotsOf owner).minOn? r.updatedAt).isSome)
      simp only [hfull, if_true, hi]
      exact .replacedOwnOldest hmatch hfull hi
    · simp only [hfull, if_false]
      by_cases hspace : r.limits.globalSlots ≤ r.tasks.length
      · obtain ⟨i, hi⟩ : ∃ i, r.recency.head? = some i := by
          cases hrec : r.recency with
          | nil => simp [hrec] at hr; omega
          | cons i rest => exact ⟨i, rfl⟩
        simp only [hspace, if_true, hi]
        exact .evictedLru hmatch (by omega) hspace hi
      · simp only [hspace, if_false]
        exact .allocated hmatch (by omega) (by omega)

end Roster

end InFlight
