import InFlight.Proofs.Registry.Activity
import InFlight.Proofs.Registry.Assignment

/-!
# An account that is alone goes round its slots

If one account alone records tasks, none of which continues an earlier one, at ever later times,
then it fills as many slots as it may and goes round them from then on.  So it keeps the tasks that
it recorded last.  Which limit it meets makes no difference: its oldest slot by time is the least
recently touched one.

## Main definitions

* `InFlight.Outcome.turn` — the outcome of a call by its number.
* `InFlight.Roster.Rotating` — the slots of the account are as the calls in turn leave them.

## Main results

* `InFlight.Roster.Rotating.choose_eq` — the slot whose turn it is is chosen.
* `InFlight.Roster.Rotating.record`, `InFlight.Roster.Rotating.run` — kept by a call and by a run.
* `InFlight.Registry.rotation_run` — outcomes and slots after every such run.
-/

set_option relaxedAutoImplicit false
set_option autoImplicit false

namespace InFlight

/-- The outcome of call `n` of an account that is alone, the calls counted from zero: a new slot as
long as there is room, and then the slots in turn, as its oldest ones or as those least recently
touched. -/
def Outcome.turn (limits : Limits) (owner : OwnerId) (n : Nat) : Outcome :=
  if n < min limits.ownerSlots limits.globalSlots then .allocated n
  else if limits.ownerSlots ≤ limits.globalSlots then
    .replacedOwnOldest (n % min limits.ownerSlots limits.globalSlots)
  else .evictedLru (n % min limits.ownerSlots limits.globalSlots) owner

/-- No two of as many calls in a row as there are slots have the same turn. -/
lemma mod_ne_of_lt_of_lt_add {j n m : Nat} (hlow : j < n) (hhigh : n < j + m) : j % m ≠ n % m := by
  intro heq
  have hdvd : m ∣ n - j := Nat.dvd_of_mod_eq_zero (Nat.sub_mod_eq_zero_of_mod_eq heq.symm)
  have := Nat.le_of_dvd (by omega) hdvd
  omega

/-- The slots take turns. -/
lemma Outcome.slot_turn (limits : Limits) (owner : OwnerId) (n : Nat) :
    (turn limits owner n).slot = n % min limits.ownerSlots limits.globalSlots := by
  unfold turn
  split_ifs with hroom
  · rw [slot, Nat.mod_eq_of_lt hroom]
  · rfl
  · rfl

/-- The account is assigned a slot as long as there is room. -/
lemma Outcome.assigned?_turn (limits : Limits) (owner : OwnerId) (n : Nat) :
    (turn limits owner n).assigned? owner =
      if n < min limits.ownerSlots limits.globalSlots then some n else none := by
  unfold turn
  split_ifs with hroom
  · rfl
  · rfl
  · rw [assigned?, if_pos rfl]

namespace Roster

variable {r : Roster} {owner : OwnerId} {done : List Call} {i m : Nat}

/-- After the calls `done` of the account the slots are those of the last `m` calls: slot `j % m`
tracks the task of call `j`, and the slots were touched in the order of these calls. -/
structure Rotating (r : Roster) (owner : OwnerId) (m : Nat) (done : List Call) : Prop where
  capacity : m = min r.limits.ownerSlots r.limits.globalSlots
  slots : r.slotsOf owner = List.range (min done.length m)
  length : r.tasks.length = min done.length m
  recency : r.recency = (List.range' (done.length - m) (min done.length m)).map (· % m)
  tasks : ∀ (j : Nat) (h : j < done.length), done.length ≤ j + m →
    r.tasks[j % m]? = some done[j].task

namespace Rotating

/-- Before any call it is the turn of the first slot. -/
lemma empty (limits : Limits) (owner : OwnerId) :
    (Roster.empty limits).Rotating owner
      (min limits.clamped.ownerSlots limits.clamped.globalSlots) [] where
  capacity := rfl
  slots := by simp
  length := by simp [Roster.empty]
  recency := by simp [Roster.empty]
  tasks := by simp

section Step

variable (h : r.Rotating owner m done) (hv : r.Valid)

include h

/-- Once the account is at its limit, the least recently touched slot is the one whose turn it
is. -/
lemma head?_recency (hm : 0 < m) (hfull : m ≤ done.length) :
    r.recency.head? = some (done.length % m) := by
  obtain ⟨k, rfl⟩ := Nat.exists_eq_add_one_of_ne_zero hm.ne'
  rw [h.recency, Nat.min_eq_right hfull, List.range'_succ, List.map_cons, List.head?_cons,
    ← Nat.mod_eq_sub_mod hfull]

include hv

/-- An account may have one slot at least. -/
lemma capacity_pos : 0 < m := by
  have hg := hv.globalSlots_pos
  have ho := hv.ownerSlots_pos
  rw [h.capacity]
  omega

/-- Every slot tracks the task of one of the last calls. -/
lemma exists_call (hi : i < r.tasks.length) :
    ∃ (j : Nat) (hj : j < done.length), done.length ≤ j + m ∧ i = j % m ∧
      r.tasks[i]? = some done[j].task := by
  have hmem := hv.mem_recency.2 hi
  rw [h.recency, List.mem_map] at hmem
  obtain ⟨j, hj, rfl⟩ := hmem
  obtain ⟨hlow, hhigh⟩ := List.mem_range'_1.1 hj
  have hlt : j < done.length := by omega
  exact ⟨j, hlt, by omega, rfl, h.tasks j hlt (by omega)⟩

/-- A payload that continues none of the tasks recorded continues no slot. -/
lemma matching?_eq_none {fp : Fingerprint}
    (hnew : ∀ d ∈ done, d.task.fingerprint.continues fp = false) :
    r.matching? owner fp = none := by
  refine List.find?_eq_none.2 fun i hi => ?_
  obtain ⟨j, hj, -, -, htask⟩ := h.exists_call hv (hv.lt_length hi)
  rw [continuedBy, htask, Option.any_some, hnew _ (List.getElem_mem hj)]
  exact Bool.false_ne_true

/-- Once the account is at its limit, it owns the slot whose turn it is. -/
lemma turn_mem_slotsOf (hfull : m ≤ done.length) : done.length % m ∈ r.slotsOf owner := by
  rw [h.slots, List.mem_range, Nat.min_eq_right hfull]
  exact Nat.mod_lt _ (h.capacity_pos hv)

/-- At ever later times the least recently touched slot is also the oldest one. -/
lemma minOn?_updatedAt (hfull : m ≤ done.length)
    (hclock : done.Pairwise fun c d => c.now < d.now) :
    (r.slotsOf owner).minOn? r.updatedAt = some (done.length % m) := by
  have hm := h.capacity_pos hv
  have hmem := h.turn_mem_slotsOf hv hfull
  have hne := List.ne_nil_of_mem hmem
  have hturn : r.updatedAt (done.length % m) = done[done.length - m].now := by
    rw [Nat.mod_eq_sub_mod hfull, updatedAt, h.tasks (done.length - m) (by omega) (by omega)]
    rfl
  have hle := List.apply_minOn_le_of_mem (f := r.updatedAt) hmem
  rw [List.minOn?_eq_some_minOn hne]
  obtain ⟨j, hj, hlate, hslot, htask⟩ :=
    h.exists_call hv (hv.lt_length (List.minOn_mem (f := r.updatedAt) (h := hne)))
  rcases Nat.eq_or_lt_of_le (show done.length - m ≤ j by omega) with heq | hlt
  · rw [hslot, ← heq, ← Nat.mod_eq_sub_mod hfull]
  · -- a slot that was touched by a later call has a later time
    have hlater := List.pairwise_iff_getElem.1 hclock (done.length - m) j (by omega) hj hlt
    have hnow : r.updatedAt ((r.slotsOf owner).minOn r.updatedAt hne) = done[j].now := by
      rw [updatedAt, htask]
      rfl
    omega

/-- **The slot whose turn it is is chosen**, by a payload that continues none of the tasks recorded.

**Proof sketch.** No slot continues.  Below both limits there is room.  If the account is at its own
limit, its oldest slot is chosen, and if the arena is full before that, the least recently touched
one; in both cases it is the one whose turn it is. -/
theorem choose_eq {fp : Fingerprint}
    (hnew : ∀ d ∈ done, d.task.fingerprint.continues fp = false)
    (hclock : done.Pairwise fun c d => c.now < d.now) :
    r.choose owner fp = Outcome.turn r.limits owner done.length := by
  have hm := h.capacity_pos hv
  have hcapacity := h.capacity
  have hslots : (r.slotsOf owner).length = min done.length m := by
    rw [h.slots, List.length_range]
  have hlength := h.length
  rw [choose, h.matching?_eq_none hv hnew, Outcome.turn, ← hcapacity]
  by_cases hroom : done.length < m
  · have hown : r.ownVictim? owner = none := if_neg (by omega)
    have hvictim : r.victim? = none := if_neg (by omega)
    have hsize : r.tasks.length = done.length := by omega
    simp only [hown, hvictim, hsize, if_pos hroom]
  have hfull : m ≤ done.length := Nat.not_lt.1 hroom
  rw [if_neg hroom]
  by_cases hlimit : r.limits.ownerSlots ≤ r.limits.globalSlots
  · have hown : r.ownVictim? owner = some (done.length % m) :=
      (if_pos (by omega)).trans (h.minOn?_updatedAt hv hfull hclock)
    simp only [hown, if_pos hlimit]
  · have hown : r.ownVictim? owner = none := if_neg (by omega)
    have hvictim : r.victim? = some (done.length % m) :=
      (if_pos (by omega)).trans (h.head?_recency hm hfull)
    simp only [hown, hvictim, hv.ownerAt_eq (h.turn_mem_slotsOf hv hfull), if_neg hlimit]

/-- The outcome of a call is the one whose turn it is. -/
lemma outcome_record (c : Call) (ho : c.owner = owner)
    (hnew : ∀ d ∈ done, d.task.fingerprint.continues c.task.fingerprint = false)
    (hclock : done.Pairwise fun c d => c.now < d.now) :
    (r.record c.owner c.name c.payload c.now).2 = Outcome.turn r.limits owner done.length := by
  subst ho
  exact h.choose_eq hv hnew hclock

/-- The slot whose turn it is moves to the back: it was in front, or it is new. -/
lemma recency_succ :
    r.recency.erase (done.length % m) ++ [done.length % m] =
      (List.range' (done.length + 1 - m) (min (done.length + 1) m)).map (· % m) := by
  have hlength := h.length
  rcases Nat.lt_or_ge done.length m with hroom | hfull
  · have hnotMem : done.length % m ∉ r.recency := by
      rw [hv.mem_recency, Nat.mod_eq_of_lt hroom]
      omega
    rw [List.erase_of_not_mem hnotMem, h.recency, Nat.sub_eq_zero_of_le hroom.le,
      Nat.sub_eq_zero_of_le hroom, Nat.min_eq_left hroom.le, Nat.min_eq_left hroom,
      List.range'_concat, List.map_append]
    simp
  · obtain ⟨k, rfl⟩ := Nat.exists_eq_add_one_of_ne_zero (h.capacity_pos hv).ne'
    have hnext : done.length - (k + 1) + 1 = done.length + 1 - (k + 1) := by omega
    have hend : done.length + 1 - (k + 1) + 1 * k = done.length := by omega
    rw [h.recency, Nat.min_eq_right hfull, Nat.min_eq_right (by omega), List.range'_succ,
      List.map_cons, ← Nat.mod_eq_sub_mod hfull, List.erase_cons_head, hnext, List.range'_concat,
      hend, List.map_append, List.map_singleton]

/-- A call leaves its task in the slot whose turn it was, and that slot comes last in recency.

**Proof sketch.** Only the chosen slot changes (`Valid.recorded_record`).  It is new and comes last
in the list of the account, or it was touched before all others. -/
lemma record (c : Call) (ho : c.owner = owner)
    (hnew : ∀ d ∈ done, d.task.fingerprint.continues c.task.fingerprint = false)
    (hclock : done.Pairwise fun c d => c.now < d.now) :
    (r.record c.owner c.name c.payload c.now).1.Rotating owner m (done ++ [c]) := by
  have hm := h.capacity_pos hv
  have hrec := hv.recorded_record c
  have houtcome := h.outcome_record hv c ho hnew hclock
  have hslot : (r.record c.owner c.name c.payload c.now).2.slot = done.length % m := by
    rw [houtcome, Outcome.slot_turn, ← h.capacity]
  have hassigned : (r.record c.owner c.name c.payload c.now).2.assigned? c.owner =
      if done.length < m then some done.length else none := by
    rw [houtcome, ho, Outcome.assigned?_turn, ← h.capacity]
  rw [hslot] at hrec
  have hlength := h.length
  have hlast : (done ++ [c]).length = done.length + 1 := by simp
  constructor
  · rw [hrec.limits]
    exact h.capacity
  · rw [hlast]
    split_ifs at hassigned with hroom
    · rw [hv.slotsOf_record_of_some c hassigned, if_pos ho.symm, h.slots,
        Nat.min_eq_left hroom.le, Nat.min_eq_left hroom, List.range_succ]
    · rw [r.slotsOf_record_of_none c hassigned, h.slots, Nat.min_eq_right (by omega),
        Nat.min_eq_right (by omega)]
  · have hlt := Nat.mod_lt done.length hm
    rw [hrec.length_tasks, hlast]
    rcases Nat.lt_or_ge done.length m with hroom | hfull
    · rw [Nat.mod_eq_of_lt hroom]
      omega
    · omega
  · rw [hrec.recency, hlast, h.recency_succ hv]
  · intro j hj hlate
    rw [hlast] at hj hlate
    rcases Nat.lt_succ_iff_lt_or_eq.1 hj with hbefore | rfl
    · rw [hrec.getElem?_of_ne _ (mod_ne_of_lt_of_lt_add hbefore (by omega)),
        h.tasks j hbefore (by omega), List.getElem_append_left hbefore]
    · rw [hrec.getElem?_self]
      simp [Call.task]

/-- **A run of the account**: every outcome is the one whose turn it is, and the slots are those of
the last calls. -/
theorem run (calls : List Call) (howner : ∀ c ∈ calls, c.owner = owner)
    (hclock : (done ++ calls).Pairwise fun c d => c.now < d.now)
    (hnew : (done ++ calls).Pairwise fun c d =>
      c.task.fingerprint.continues d.task.fingerprint = false) :
    (r.run calls).1.Rotating owner m (done ++ calls) ∧
      (r.run calls).2 =
        (List.range' done.length calls.length).map (Outcome.turn r.limits owner) := by
  induction calls generalizing r done with
  | nil => exact ⟨by simpa [Roster.run] using h, rfl⟩
  | cons c calls ih =>
    have ho := howner c List.mem_cons_self
    obtain ⟨hclockDone, -, -⟩ := List.pairwise_append.1 hclock
    obtain ⟨-, -, hnewCall⟩ := List.pairwise_append.1 hnew
    have hnewCall : ∀ d ∈ done, d.task.fingerprint.continues c.task.fingerprint = false :=
      fun d hd => hnewCall d hd c List.mem_cons_self
    have houtcome := h.outcome_record hv c ho hnewCall hclockDone
    have hsplit : done ++ c :: calls = (done ++ [c]) ++ calls := by simp
    rw [hsplit] at hclock hnew ⊢
    obtain ⟨hrotating, houtcomes⟩ := ih (h.record hv c ho hnewCall hclockDone) (hv.record c)
      (fun d hd => howner d (List.mem_cons_of_mem c hd)) hclock hnew
    rw [(hv.recorded_record c).limits, List.length_append, List.length_singleton] at houtcomes
    refine ⟨hrotating, ?_⟩
    rw [List.length_cons, List.range'_succ, List.map_cons, ← houtcome, ← houtcomes]
    rfl

/-- The account has the tasks of its last calls. -/
lemma tasksOf_perm : (r.tasksOf owner).Perm ((done.drop (done.length - m)).map Call.task) := by
  have hperm : (List.range (min done.length m)).Perm r.recency := by
    rw [← h.length]
    exact hv.recency_perm.symm
  have hread : ∀ i ∈ List.range (min done.length m),
      r.tasks[(done.length - m + i) % m]? =
        ((done.drop (done.length - m)).map Call.task)[i]? := by
    intro i hi
    rw [List.mem_range] at hi
    rw [h.tasks (done.length - m + i) (by omega) (by omega), List.getElem?_map,
      List.getElem?_drop, List.getElem?_eq_getElem (by omega), Option.map_some]
  have hlength : min done.length m = ((done.drop (done.length - m)).map Call.task).length := by
    rw [List.length_map, List.length_drop]
    omega
  rw [tasksOf, h.slots]
  refine (hperm.filterMap _).trans (List.Perm.of_eq ?_)
  rw [h.recency, List.range'_eq_map_range, List.map_map, List.filterMap_map]
  refine (List.filterMap_congr hread).trans ?_
  rw [hlength]
  exact filterMap_range_getElem? _

/-- No slot carries the fingerprint of an earlier call: one that does tracks the task of a later
one, which would continue that call. -/
lemma carriers_eq_nil
    (hnew : done.Pairwise fun c d => c.task.fingerprint.continues d.task.fingerprint = false)
    {c : Call} (hc : c ∈ done.take (done.length - m)) :
    r.carriers owner c.task.fingerprint = [] := by
  refine List.eq_nil_iff_forall_not_mem.2 fun i hi => ?_
  obtain ⟨hslot, hcarries⟩ := mem_carriers.1 hi
  obtain ⟨j, hj, hlate, -, htask⟩ := h.exists_call hv (hv.lt_length hslot)
  obtain ⟨k, hk, rfl⟩ := List.getElem_of_mem hc
  rw [List.length_take] at hk
  rw [List.getElem_take] at hcarries
  rw [htask, Option.map_some, Option.some.injEq] at hcarries
  have hnot := List.pairwise_iff_getElem.1 hnew k j (by omega) hj (by omega)
  rw [hcarries, Fingerprint.continues_self] at hnot
  cases hnot

end Step

end Rotating

end Roster

namespace Registry

/-- **An account that is alone keeps its latest tasks.**  Whatever the limits, let one account
record payloads on an empty registry, none of which continues an earlier one, at ever later times.
With `m` the lower one of the two limits, call `i` returns slot `i % m`: a new slot for the first
`m` calls, and after these the account's oldest one, or the least recently touched one of all if
that is the limit met.  In the end the account owns a slot for each of the last `m` calls, and none
for an earlier one.

**Proof sketch.** The slot whose turn it is is chosen, whichever the limit is
(`Roster.Rotating.choose_eq`); the run goes on from there (`Roster.Rotating.run`). -/
theorem rotation_run (limits : Limits) (owner : OwnerId) (calls : List Call)
    (howner : ∀ c ∈ calls, c.owner = owner) (hclock : calls.Pairwise fun c d => c.now < d.now)
    (hnew : calls.Pairwise fun c d =>
      (Fingerprint.compute c.payload).continues (Fingerprint.compute d.payload) = false) :
    let r := ((empty limits).run calls).1
    let k := max limits.ownerSlots 1
    let g := max limits.globalSlots 1
    let m := min k g
    let n := calls.length
    ((empty limits).run calls).2 = (List.range n).map (fun i =>
        if i < m then .allocated i
        else if k ≤ g then .replacedOwnOldest (i % m)
        else .evictedLru (i % m) owner) ∧
      r.slotsOf owner = List.range (min n m) ∧
      (∀ (j : Nat) (hj : j < n), n ≤ j + m → r.tasks[j % m]? = some calls[j].task) ∧
      (r.tasksOf owner).Perm ((calls.drop (n - m)).map Call.task) ∧
      ∀ c ∈ calls.take (n - m), r.carriers owner (Fingerprint.compute c.payload) = [] := by
  intro r k g m n
  obtain ⟨hspells, houtcomes⟩ := (spells_empty limits).run (Roster.valid_empty limits) calls
  have hv := Roster.valid_run limits calls
  obtain ⟨hrotating, hturns⟩ := (Roster.Rotating.empty limits owner).run
    (Roster.valid_empty limits) calls howner hclock hnew
  rw [List.nil_append] at hrotating
  refine ⟨?_, ?_, fun j hj hlate => ?_, ?_, fun c hc => ?_⟩
  · rw [houtcomes, hturns, List.length_nil, ← List.range_eq_range']
    rfl
  · rw [hspells.slotsOf_eq]
    exact hrotating.slots
  · rw [hspells.getElem?_tasks]
    exact hrotating.tasks j hj hlate
  · rw [hspells.tasksOf_eq]
    exact hrotating.tasksOf_perm hv
  · rw [hspells.carriers_eq]
    exact hrotating.carriers_eq_nil hv hnew hc

/-- An account with two slots, by its own limit or by that of the arena, gives up the first of three
payloads for the third. -/
theorem rotation_three_payloads :
    let calls : List Call := [⟨5, "u", letters 8, 1⟩, ⟨5, "u", letters 512, 2⟩,
      ⟨5, "u", letters 32768, 3⟩]
    let r := ((empty ⟨3, 2⟩).run calls).1
    (∀ c ∈ calls, c.owner = 5) ∧ calls.Pairwise (fun c d => c.now < d.now) ∧
      (calls.Pairwise fun c d =>
        (Fingerprint.compute c.payload).continues (Fingerprint.compute d.payload) = false) ∧
      ((empty ⟨3, 2⟩).run calls).2 = [.allocated 0, .allocated 1, .replacedOwnOldest 0] ∧
      ((empty ⟨2, 3⟩).run calls).2 = [.allocated 0, .allocated 1, .evictedLru 0 5] ∧
      r.slotsOf 5 = [0, 1] ∧ r.tasks[0]? = some ⟨5, "u", 3, Fingerprint.compute (letters 32768)⟩ ∧
      r.carriers 5 (Fingerprint.compute (letters 8)) = [] := by
  intro calls r
  have howner : ∀ c ∈ calls, c.owner = 5 := by simp [calls]
  have hclock : calls.Pairwise fun c d => c.now < d.now := by simp [calls]
  have hnew : calls.Pairwise fun c d =>
      (Fingerprint.compute c.payload).continues (Fingerprint.compute d.payload) = false := by
    have hfirst : (Fingerprint.compute (letters 8)).continues
        (Fingerprint.compute (letters 32768)) = false := not_continues_letters_of (by decide)
    have hsecond : (Fingerprint.compute (letters 512)).continues
        (Fingerprint.compute (letters 32768)) = false := not_continues_letters_of (by decide)
    simp [calls, not_continues_letters, hfirst, hsecond]
  obtain ⟨houtcomes, hslots, htasks, -, hearlier⟩ :=
    rotation_run ⟨3, 2⟩ 5 calls howner hclock hnew
  obtain ⟨hevicted, -⟩ := rotation_run ⟨2, 3⟩ 5 calls howner hclock hnew
  exact ⟨howner, hclock, hnew, houtcomes, hevicted, hslots, htasks 2 (by decide) (by decide),
    hearlier ⟨5, "u", letters 8, 1⟩ List.mem_cons_self⟩

end Registry

end InFlight
