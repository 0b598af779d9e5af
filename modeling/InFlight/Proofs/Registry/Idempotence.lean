import InFlight.Proofs.Fingerprint.Levels
import InFlight.Proofs.Registry.Refinement

/-!
# Recording a payload again

The slot that a call returns is the one that the same payload continues from then on, and it is
the most recently touched one already.  So recording the payload again, for the same account and
right after, gives the same slot and only sets its name and its time.

## Main definitions

* `InFlight.Registry.stamp` — a slot gets another name and another time.

## Main results

* `InFlight.Roster.Valid.matching?_recordFingerprint` — after a call the slot that it returned is
  the first one of the account that the payload continues.
* `InFlight.Registry.record_idempotent` — recording the payload again.
-/

set_option relaxedAutoImplicit false
set_option autoImplicit false

namespace InFlight

/-! ## The slot that continues -/

namespace Roster

variable {r r' : Roster} {owner : OwnerId} {fp : Fingerprint} {i j : Nat} {task : Task}

/-- The only element of a list with a property is the first one with it. -/
lemma find?_eq_some_of_unique {xs : List Nat} {p : Nat → Bool} (hi : i ∈ xs) (hp : p i = true)
    (huniq : ∀ j ∈ xs, p j = true → j = i) : xs.find? p = some i := by
  cases hfind : xs.find? p with
  | none => exact absurd hp (List.find?_eq_none.1 hfind i hi)
  | some j => rw [huniq j (List.mem_of_find?_eq_some hfind) (List.find?_some hfind)]

namespace Recorded

/-- What continues the slot of a recorded task is what continues the payload recorded. -/
lemma continuedBy_self (h : Recorded r r' i task) :
    r'.continuedBy fp i = task.fingerprint.continues fp := by
  rw [continuedBy, h.getElem?_self]
  rfl

/-- Another slot is continued by the same payloads as before. -/
lemma continuedBy_of_ne (h : Recorded r r' i task) (hj : j ≠ i) :
    r'.continuedBy fp j = r.continuedBy fp j := by
  rw [continuedBy, continuedBy, h.getElem?_of_ne j hj]

end Recorded

/-- **The slot that a call returns is the one that continues**: right after a call, the first
slot of the account that the payload continues is the one returned.

**Proof sketch.** The returned slot continues since every payload continues itself.  If it was
chosen as the first to continue, the slots of the account stand in the same order, and those
before it still do not continue.  Otherwise no slot of the account continued, and all that the
account has besides the returned slot it had before. -/
theorem Valid.matching?_recordFingerprint (h : r.Valid) (owner : OwnerId) (name : String)
    (fp : Fingerprint) (now : Int) :
    (r.recordFingerprint owner name fp now).1.matching? owner fp =
      some (r.recordFingerprint owner name fp now).2.slot := by
  have hrec := (h.recorded_and_valid owner name fp now).1
  have hself := hrec.continuedBy_self.trans (Fingerprint.continues_self fp)
  have hnone : r.matching? owner fp = none →
      (r.recordFingerprint owner name fp now).1.matching? owner fp =
        some (r.recordFingerprint owner name fp now).2.slot := by
    intro hmatch
    refine find?_eq_some_of_unique ((hrec.mem_slotsOf owner).2 rfl) hself fun j hj hcont => ?_
    by_contra hne
    rw [hrec.mem_slotsOf_of_ne hne] at hj
    rw [hrec.continuedBy_of_ne hne] at hcont
    exact List.find?_eq_none.1 hmatch j hj hcont
  cases hmatch : r.matching? owner fp with
  | none => exact hnone hmatch
  | some i =>
    have hchoose : r.choose owner fp = .continued i := by rw [choose, hmatch]
    obtain ⟨hcont, as, bs, hslots, has⟩ := List.find?_eq_some_iff_append.1 hmatch
    have hnodup := h.nodup_slotsOf owner
    rw [hslots] at hnodup
    simp only [recordFingerprint, hchoose] at hrec hself ⊢
    refine List.find?_eq_some_iff_append.2 ⟨hself, as, bs, hslots, fun j hj => ?_⟩
    have hne : j ≠ i := by
      rintro rfl
      exact (List.nodup_append.1 hnodup).2.2 j hj j List.mem_cons_self rfl
    rw [Outcome.slot] at hrec
    rw [hrec.continuedBy_of_ne hne]
    exact has j hj

end Roster

/-! ## The second call -/

namespace Registry

variable {r : Registry} {ro : Roster} {owner : OwnerId} {fp : Fingerprint} {i : Nat}

/-- Slot `i` gets another name and another time. -/
def stamp (r : Registry) (i : Nat) (name : String) (now : Int) : Registry :=
  { r with tasks := r.tasks.modify i fun t => { t with name, updatedAt := now } }

/-- Two ways to modify a slot that agree on the task in it have the same effect. -/
lemma modify_eq_modify {tasks : Array Task} {t : Task} (ht : tasks[i]? = some t)
    {f g : Task → Task} (hfg : f t = g t) : tasks.modify i f = tasks.modify i g := by
  refine Array.ext_getElem? fun j => ?_
  rw [Array.getElem?_modify, Array.getElem?_modify]
  by_cases hij : i = j
  · subst hij
    simp [ht, hfg]
  · rw [if_neg hij, if_neg hij]

/-- A stamp that repeats the name and the time of a slot changes nothing. -/
lemma stamp_self {t : Task} (ht : r.tasks[i]? = some t) :
    r.stamp i t.name t.updatedAt = r := by
  have hid : (r.tasks.modify i fun u => { u with name := t.name, updatedAt := t.updatedAt }) =
      r.tasks.modify i id := modify_eq_modify ht rfl
  have hsame : r.tasks.modify i id = r.tasks := by
    refine Array.toList_inj.1 ?_
    rw [Array.toList_modify, List.modify_id]
  rw [stamp, hid, hsame]

/-- Overwriting a slot with the fingerprint that it has only stamps it. -/
lemma overwrite_eq_stamp {t : Task} (ht : r.tasks[i]? = some t) (name : String) (now : Int) :
    r.overwrite i name now t.fingerprint = r.stamp i name now := by
  have htasks : (r.tasks.modify i fun u =>
      { u with name, updatedAt := now, fingerprint := t.fingerprint }) =
      r.tasks.modify i fun u => { u with name, updatedAt := now } := modify_eq_modify ht rfl
  rw [overwrite, stamp, htasks]

/-- If the first slot to continue carries the fingerprint and is the most recently touched one,
recording only stamps it: nothing is relinked. -/
lemma recordFingerprint_eq_stamp {t : Task} (hmatch : r.matching? owner t.fingerprint = some i)
    (ht : r.tasks[i]? = some t) (hlast : r.recency.last = some i) (name : String) (now : Int) :
    r.recordFingerprint owner name t.fingerprint now = (r.stamp i name now, .continued i) := by
  have hchoose : r.choose owner t.fingerprint = .continued i := by rw [choose, hmatch]
  have htouch : (r.stamp i name now).touch i = r.stamp i name now := if_pos hlast
  simp only [recordFingerprint, hchoose, apply, overwrite_eq_stamp ht, htouch]

/-- Recording a payload again on a registry that spells a valid roster.

**Proof sketch.** After the first call the returned slot is the first to continue
(`Roster.Valid.matching?_recordFingerprint`), tracks the task and comes last in recency. -/
lemma Spells.recordFingerprint_twice (h : r.Spells ro) (hv : ro.Valid) (owner : OwnerId)
    (name name' : String) (fp : Fingerprint) (now now' : Int) :
    let first := r.recordFingerprint owner name fp now
    first.1.recordFingerprint owner name' fp now' =
        (first.1.stamp first.2.slot name' now', .continued first.2.slot) ∧
      first.1.stamp first.2.slot name now = first.1 := by
  obtain ⟨hspells, houtcome⟩ := h.recordFingerprint hv owner name fp now
  obtain ⟨hrec, -⟩ := hv.recorded_and_valid owner name fp now
  have hmatch := hv.matching?_recordFingerprint owner name fp now
  rw [← houtcome] at hrec hmatch
  rw [← hspells.matching?_eq] at hmatch
  have ht := (hspells.getElem?_tasks _).trans hrec.getElem?_self
  have hlast := h.last_recordFingerprint hv owner name fp now
  exact ⟨recordFingerprint_eq_stamp hmatch ht hlast name' now', stamp_self ht⟩

/-- **Recording is idempotent**: in every reached registry, recording a payload for an account
and then the same payload again, whatever the outcome of the first call, returns the slot of the
first call as continued.  The second call only sets the name and the time of that slot, and if
those are the same as well, it leaves the registry as it is. -/
theorem record_idempotent (limits : Limits) (calls : List Call) (owner : OwnerId)
    (payload : ByteArray) (name name' : String) (now now' : Int) :
    let first := ((empty limits).run calls).1.record owner name payload now
    first.1.record owner name' payload now' =
        (first.1.stamp first.2.slot name' now', .continued first.2.slot) ∧
      first.1.record owner name payload now = (first.1, .continued first.2.slot) := by
  have hspells := spells_run limits calls
  have hv := Roster.valid_run limits calls
  have htwice := fun name' now' => hspells.recordFingerprint_twice hv owner name name'
    (Fingerprint.compute payload) now now'
  refine ⟨(htwice name' now').1, ?_⟩
  obtain ⟨hsecond, hsame⟩ := htwice name now
  rw [hsame] at hsecond
  exact hsecond

end Registry

end InFlight
