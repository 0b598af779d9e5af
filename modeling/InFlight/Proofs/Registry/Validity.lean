import Mathlib.Data.List.Nodup
import Mathlib.Data.List.Perm.Basic
import Mathlib.Data.List.Range
import InFlight.Proofs.Registry.Roster

/-!
# What recording keeps of a roster

In a roster reached by recording, the recency list holds every slot once, the lists of the
accounts divide the slots among their owners, and no limit is exceeded.  Whatever the outcome,
recording changes a single slot: it tracks the new task, comes last in recency and belongs to
the owner of the task; everything else is as before.

## Main definitions

* `InFlight.Roster.Valid` — the invariant of rosters.
* `InFlight.Roster.Recorded` — two rosters that differ by one recorded task.

## Main results

* `InFlight.Roster.Valid.recorded_record` — the four outcomes have this effect in common.
* `InFlight.Roster.Valid.record`, `InFlight.Roster.valid_run` — the invariant is kept by a step
  and holds after every run.

## Design

`Recorded` compares the lists of an account with the chosen slot erased from both, which says
in one equation that nothing but that slot is added, removed or moved.  The invariant after a
step follows from `Recorded` alone (`Recorded.valid`), so each outcome is analysed once.
-/

set_option relaxedAutoImplicit false
set_option autoImplicit false

namespace InFlight

namespace Roster

variable {r r' : Roster} {owner o o' : OwnerId} {fp : Fingerprint} {i j : Nat} {task : Task}

/-! ## The invariant -/

/-- The recency list holds every slot once, the lists of the accounts divide the slots among
their owners, accounts without a slot are not in the map, and no limit is exceeded. -/
structure Valid (r : Roster) : Prop where
  globalSlots_pos : 0 < r.limits.globalSlots
  ownerSlots_pos : 0 < r.limits.ownerSlots
  recency_perm : r.recency.Perm (List.range r.tasks.length)
  owned_ne_nil : ∀ o, r.owned o ≠ some []
  nodup_slotsOf : ∀ o, (r.slotsOf o).Nodup
  mem_slotsOf : ∀ o i, i ∈ r.slotsOf o ↔ (r.tasks[i]?).map Task.owner = some o
  length_tasks_le : r.tasks.length ≤ r.limits.globalSlots
  length_slotsOf_le : ∀ o, (r.slotsOf o).length ≤ r.limits.ownerSlots

/-- An empty roster is valid. -/
lemma valid_empty (limits : Limits) : (empty limits).Valid where
  globalSlots_pos := by
    simp only [empty, Limits.clamped]
    omega
  ownerSlots_pos := by
    simp only [empty, Limits.clamped]
    omega
  recency_perm := by simp [empty]
  owned_ne_nil := by simp [empty]
  nodup_slotsOf := by simp
  mem_slotsOf := by
    intro o i
    rw [slotsOf_empty]
    simp [empty]
  length_tasks_le := by simp [empty]
  length_slotsOf_le := by simp

namespace Valid

variable (h : r.Valid)

include h

/-- The recency list holds the slots of the arena. -/
lemma mem_recency : i ∈ r.recency ↔ i < r.tasks.length := by
  rw [h.recency_perm.mem_iff, List.mem_range]

/-- The recency list is as long as the arena. -/
lemma length_recency : r.recency.length = r.tasks.length := by
  simpa using h.recency_perm.length_eq

/-- The slots of an account exist. -/
lemma lt_length (hi : i ∈ r.slotsOf o) : i < r.tasks.length := by
  rw [h.mem_slotsOf] at hi
  by_contra hge
  rw [List.getElem?_eq_none (by omega)] at hi
  simp at hi

/-- Every slot belongs to its owner. -/
lemma mem_slotsOf_ownerAt (hi : i < r.tasks.length) : i ∈ r.slotsOf (r.ownerAt i) := by
  rw [h.mem_slotsOf, ownerAt, List.getElem?_eq_getElem hi]
  rfl

/-- A slot belongs to one account only. -/
lemma owner_unique (hi : i ∈ r.slotsOf o) (hi' : i ∈ r.slotsOf o') : o = o' := by
  rw [h.mem_slotsOf] at hi hi'
  exact Option.some.inj (hi.symm.trans hi')

/-- A slot in the list of an account belongs to it. -/
lemma ownerAt_eq (hi : i ∈ r.slotsOf o) : r.ownerAt i = o :=
  h.owner_unique (h.mem_slotsOf_ownerAt (h.lt_length hi)) hi

/-- An account is in the map when it owns a slot. -/
lemma isSome_owned_iff (o : OwnerId) : (r.owned o).isSome ↔ ∃ i, i ∈ r.slotsOf o := by
  have hne := h.owned_ne_nil o
  cases howned : r.owned o with
  | none => simp [slotsOf, howned]
  | some xs =>
    rw [howned] at hne
    simp only [slotsOf, howned, Option.isSome_some, Option.getD_some, true_iff]
    exact List.exists_mem_of_ne_nil xs fun e => hne (e ▸ rfl)

/-- The case of a choice in a valid roster. -/
lemma chooses_choose (owner : OwnerId) (fp : Fingerprint) : r.Chooses owner fp (r.choose owner fp) :=
  Roster.chooses_choose h.ownerSlots_pos h.globalSlots_pos h.length_recency

end Valid

/-! ## One recorded task -/

/-- Slot `i` of `r'` tracks the task, comes last in recency and belongs to the owner of the task;
apart from that slot the two rosters agree. -/
structure Recorded (r r' : Roster) (i : Nat) (task : Task) : Prop where
  limits : r'.limits = r.limits
  length_tasks : r'.tasks.length = max r.tasks.length (i + 1)
  getElem?_self : r'.tasks[i]? = some task
  getElem?_of_ne : ∀ j, j ≠ i → r'.tasks[j]? = r.tasks[j]?
  recency : r'.recency = r.recency.erase i ++ [i]
  mem_slotsOf : ∀ o, i ∈ r'.slotsOf o ↔ o = task.owner
  erase_slotsOf : ∀ o, (r'.slotsOf o).erase i = (r.slotsOf o).erase i

namespace Recorded

/-- A slot other than the one chosen stays with its account. -/
lemma mem_slotsOf_of_ne (h : Recorded r r' i task) (hj : j ≠ i) :
    j ∈ r'.slotsOf o ↔ j ∈ r.slotsOf o := by
  rw [← List.mem_erase_of_ne hj, h.erase_slotsOf, List.mem_erase_of_ne hj]

/-- An account other than the owner of the task keeps its slots but for the one chosen. -/
lemma slotsOf_of_ne (h : Recorded r r' i task) (ho : o ≠ task.owner) :
    r'.slotsOf o = (r.slotsOf o).erase i := by
  rw [← h.erase_slotsOf, List.erase_of_not_mem]
  exact fun hi => ho ((h.mem_slotsOf o).1 hi)

/-- The owner of the task has the slots it had, and the one chosen. -/
lemma slotsOf_perm (h : Recorded r r' i task) :
    (r'.slotsOf task.owner).Perm (i :: (r.slotsOf task.owner).erase i) := by
  rw [← h.erase_slotsOf]
  exact List.perm_cons_erase ((h.mem_slotsOf _).2 rfl)

/-- The chosen slot makes the recency list a list of all slots again. -/
lemma recency_perm (h : Recorded r r' i task) (hv : r.Valid) (hi : i ≤ r.tasks.length) :
    r'.recency.Perm (List.range r'.tasks.length) := by
  rw [h.recency, h.length_tasks]
  refine (List.perm_append_singleton i _).trans ?_
  rcases Nat.lt_or_eq_of_le hi with hlt | rfl
  · rw [show max r.tasks.length (i + 1) = r.tasks.length by omega]
    exact (List.perm_cons_erase (hv.mem_recency.2 hlt)).symm.trans hv.recency_perm
  · have hnotMem : r.tasks.length ∉ r.recency := fun hm => by
      have := hv.mem_recency.1 hm
      omega
    rw [List.erase_of_not_mem hnotMem, show max r.tasks.length (r.tasks.length + 1) =
      r.tasks.length + 1 by omega, List.range_succ]
    exact (hv.recency_perm.cons _).trans (List.perm_append_singleton _ _).symm

/-- A recorded task keeps the invariant, if there was room for its slot.

**Proof sketch.** The slots of every account but the owner are a part of what they were; those
of the owner are what they were and the chosen slot.  Owners are read off the tasks, which only
changed at the chosen slot. -/
theorem valid (h : Recorded r r' i task) (hv : r.Valid) (hi : i ≤ r.tasks.length)
    (hspace : i = r.tasks.length → r.tasks.length < r.limits.globalSlots)
    (hroom : i ∉ r.slotsOf task.owner →
      (r.slotsOf task.owner).length < r.limits.ownerSlots)
    (howned : ∀ o, r'.owned o ≠ some []) : r'.Valid where
  globalSlots_pos := h.limits ▸ hv.globalSlots_pos
  ownerSlots_pos := h.limits ▸ hv.ownerSlots_pos
  recency_perm := h.recency_perm hv hi
  owned_ne_nil := howned
  nodup_slotsOf := by
    intro o
    by_cases ho : o = task.owner
    · subst ho
      rw [h.slotsOf_perm.nodup_iff, List.nodup_cons]
      have hn := hv.nodup_slotsOf task.owner
      exact ⟨hn.not_mem_erase, hn.erase i⟩
    · rw [h.slotsOf_of_ne ho]
      exact (hv.nodup_slotsOf o).erase i
  mem_slotsOf := by
    intro o j
    by_cases hj : j = i
    · subst hj
      rw [h.mem_slotsOf, h.getElem?_self]
      simp [eq_comm]
    · rw [h.mem_slotsOf_of_ne hj, hv.mem_slotsOf, h.getElem?_of_ne j hj]
  length_tasks_le := by
    have hle := hv.length_tasks_le
    rw [h.limits, h.length_tasks]
    omega
  length_slotsOf_le := by
    intro o
    rw [h.limits]
    by_cases ho : o = task.owner
    · subst ho
      rw [h.slotsOf_perm.length_eq, List.length_cons]
      by_cases hmem : i ∈ r.slotsOf task.owner
      · have hle := hv.length_slotsOf_le task.owner
        have hpos := List.length_pos_of_mem hmem
        rw [List.length_erase_of_mem hmem]
        omega
      · rw [List.erase_of_not_mem hmem]
        exact hroom hmem
    · rw [h.slotsOf_of_ne ho]
      exact List.length_erase_le.trans (hv.length_slotsOf_le o)

end Recorded

/-! ## The outcomes -/

/-- A slot that comes last in a list without it is erased again. -/
lemma erase_append_singleton {xs : List Nat} (hi : i ∉ xs) : (xs ++ [i]).erase i = xs := by
  rw [List.erase_append_right _ hi, List.erase_cons_head, List.append_nil]

namespace Valid

variable (h : r.Valid)

include h

/-- Tracking another task of the owner of a slot. -/
lemma recorded_track (task : Task) (hi : i ∈ r.slotsOf task.owner) :
    Recorded r (r.track i task) i task where
  limits := rfl
  length_tasks := by
    have := h.lt_length hi
    simp only [track, List.length_set]
    omega
  getElem?_self := by simp [track, h.lt_length hi]
  getElem?_of_ne := by
    intro j hj
    simp [track, List.getElem?_set_ne hj.symm]
  recency := rfl
  mem_slotsOf := by
    intro o
    rw [slotsOf_track]
    refine ⟨fun ho => h.owner_unique ho hi, ?_⟩
    rintro rfl
    exact hi
  erase_slotsOf := fun _ => rfl

/-- Taking a slot over from another account. -/
lemma recorded_takeOver (task : Task) {source : OwnerId} (hi : i ∈ r.slotsOf source)
    (hs : source ≠ task.owner) : Recorded r (r.takeOver i source task) i task where
  limits := rfl
  length_tasks := by
    have := h.lt_length hi
    simp only [takeOver, track, assign, release, List.length_set]
    omega
  getElem?_self := by simp [takeOver, track, assign, release, h.lt_length hi]
  getElem?_of_ne := by
    intro j hj
    simp [takeOver, track, assign, release, List.getElem?_set_ne hj.symm]
  recency := rfl
  mem_slotsOf := by
    intro o
    rw [slotsOf_takeOver hs]
    by_cases ho : o = task.owner
    · simp [ho]
    · by_cases hos : o = source
      · subst hos
        simp [ho, (h.nodup_slotsOf o).not_mem_erase]
      · simp only [ho, hos, if_false, iff_false]
        exact fun hm => hos (h.owner_unique hm hi)
  erase_slotsOf := by
    intro o
    rw [slotsOf_takeOver hs]
    by_cases ho : o = task.owner
    · subst ho
      have hnotMem : i ∉ r.slotsOf task.owner := fun hm => hs (h.owner_unique hi hm)
      rw [if_pos rfl, erase_append_singleton hnotMem, List.erase_of_not_mem hnotMem]
    · by_cases hos : o = source
      · subst hos
        rw [if_neg ho, if_pos rfl, List.erase_of_not_mem (h.nodup_slotsOf o).not_mem_erase]
      · rw [if_neg ho, if_neg hos]

/-- The next free position of the arena is no slot of an account. -/
lemma length_notMem_slotsOf : r.tasks.length ∉ r.slotsOf o := fun hm => by
  have := h.lt_length hm
  omega

/-- Making a new slot. -/
lemma recorded_allocate (task : Task) : Recorded r (r.allocate task) r.tasks.length task where
  limits := rfl
  length_tasks := by simp [allocate, assign]
  getElem?_self := by simp [allocate, assign]
  getElem?_of_ne := by
    intro j hj
    simp only [allocate, assign]
    rcases Nat.lt_or_ge j r.tasks.length with hlt | hge
    · rw [List.getElem?_append_left hlt]
    · rw [List.getElem?_eq_none (by simp; omega), List.getElem?_eq_none hge]
  recency := by
    have hnotMem : r.tasks.length ∉ r.recency := fun hm => by
      have := h.mem_recency.1 hm
      omega
    rw [List.erase_of_not_mem hnotMem]
    rfl
  mem_slotsOf := by
    intro o
    rw [slotsOf_allocate]
    by_cases ho : o = task.owner
    · simp [ho]
    · simp [ho, h.length_notMem_slotsOf]
  erase_slotsOf := by
    intro o
    rw [slotsOf_allocate, List.erase_of_not_mem h.length_notMem_slotsOf]
    by_cases ho : o = task.owner
    · rw [if_pos ho, erase_append_singleton h.length_notMem_slotsOf]
    · rw [if_neg ho, List.erase_of_not_mem h.length_notMem_slotsOf]

end Valid

/-- An account that gets a slot is in the map with it. -/
lemma owned_assign_ne_nil (h : ∀ o, r.owned o ≠ some []) (o : OwnerId) :
    (r.assign owner i).owned o ≠ some [] := by
  by_cases ho : o = owner
  · subst ho
    simp [owned_assign]
  · simpa [owned_assign, ho] using h o

/-- An account that loses its last slot is dropped from the map. -/
lemma owned_release_ne_nil (h : ∀ o, r.owned o ≠ some []) (o : OwnerId) :
    (r.release owner i).owned o ≠ some [] := by
  by_cases ho : o = owner
  · subst ho
    rw [owned_release, Function.update_self]
    split_ifs with hrest
    · simp
    · simpa using hrest
  · simpa [owned_release, ho] using h o

/-- **Recording changes one slot**, whatever the outcome, and keeps a roster valid.

**Proof sketch.** In the first two cases the slot is one of the owner's.  The victim of the third
belongs to somebody; it changes hands unless that is the owner already.  A new slot is
nobody's. -/
theorem Valid.recorded_and_valid (h : r.Valid) (owner : OwnerId) (name : String)
    (fp : Fingerprint) (now : Int) :
    Recorded r (r.recordFingerprint owner name fp now).1
        (r.recordFingerprint owner name fp now).2.slot
        { owner, name, updatedAt := now, fingerprint := fp } ∧
      (r.recordFingerprint owner name fp now).1.Valid := by
  set task : Task := { owner, name, updatedAt := now, fingerprint := fp }
  have hown : ∀ i ∈ r.slotsOf task.owner,
      Recorded r (r.track i task) i task ∧ (r.track i task).Valid := fun i hi => by
    have hlt := h.lt_length hi
    have hrec := h.recorded_track task hi
    exact ⟨hrec, hrec.valid h hlt.le (fun e => by omega) (fun hm => absurd hi hm)
      h.owned_ne_nil⟩
  have hc := h.chooses_choose owner fp
  simp only [recordFingerprint]
  generalize r.choose owner fp = outcome at hc ⊢
  cases hc with
  | continued hmatch => exact hown _ (List.mem_of_find?_eq_some hmatch)
  | replacedOwnOldest _ _ holdest => exact hown _ (List.minOn?_mem holdest)
  | @evictedLru i _ hroom _ hleast =>
    have hlt := h.mem_recency.1 (List.mem_of_head? hleast)
    have hi := h.mem_slotsOf_ownerAt hlt
    simp only [apply, Outcome.slot]
    by_cases ho : r.ownerAt i = owner
    · rw [if_pos ho]
      rw [ho] at hi
      exact hown i hi
    · rw [if_neg ho]
      have hrec := h.recorded_takeOver task hi ho
      exact ⟨hrec, hrec.valid h hlt.le (fun e => by omega) (fun _ => hroom)
        (owned_assign_ne_nil (owned_release_ne_nil h.owned_ne_nil))⟩
  | allocated _ hroom hspace =>
    have hrec := h.recorded_allocate task
    exact ⟨hrec, hrec.valid h le_rfl (fun _ => hspace) (fun _ => hroom)
      (owned_assign_ne_nil h.owned_ne_nil)⟩

/-- What one call does to a valid roster. -/
theorem Valid.recorded_record (h : r.Valid) (c : Call) :
    Recorded r (r.record c.owner c.name c.payload c.now).1
      (r.record c.owner c.name c.payload c.now).2.slot c.task :=
  (h.recorded_and_valid c.owner c.name (Fingerprint.compute c.payload) c.now).1

/-- A call keeps a roster valid. -/
theorem Valid.record (h : r.Valid) (c : Call) :
    (r.record c.owner c.name c.payload c.now).1.Valid :=
  (h.recorded_and_valid c.owner c.name (Fingerprint.compute c.payload) c.now).2

/-- Every run keeps a roster valid. -/
theorem Valid.run (h : r.Valid) (calls : List Call) : (r.run calls).1.Valid := by
  induction calls generalizing r with
  | nil => exact h
  | cons c calls ih => exact ih (h.record c)

/-- No call changes the limits. -/
lemma Valid.limits_run (h : r.Valid) (calls : List Call) :
    (r.run calls).1.limits = r.limits := by
  induction calls generalizing r with
  | nil => rfl
  | cons c calls ih => exact (ih (h.record c)).trans (h.recorded_record c).limits

/-- Every roster reached from an empty one is valid. -/
theorem valid_run (limits : Limits) (calls : List Call) : ((empty limits).run calls).1.Valid :=
  (valid_empty limits).run calls

end Roster

end InFlight
