import InFlight.Proofs.Registry.Refinement

/-!
# Recency is the order of last touches

Number the calls of a run from one and give every slot the number of the last call that returned
it.  The recency chain lists the slots in ascending order of these numbers, over the whole run.
So the slot that is evicted is the one whose last touch lies furthest back, and between a touch
of a slot and its eviction every other slot of a full arena has been touched in turn.

## Main definitions

* `InFlight.lastNumber` — the number of the last element of a list with a property.
* `InFlight.Outcome.lastTouch` — the number of the last call that returned a slot.
* `InFlight.Roster.Ordered` — the recency list ascends in these numbers.

## Main results

* `InFlight.Roster.Ordered.record`, `InFlight.Roster.Ordered.run` — the order is kept by a call
  and by a run.
* `InFlight.Roster.Ordered.spacing` — how far back the last touch of a victim lies.
* `InFlight.Registry.recency_run` — the order, the victims and their spacing, after every run.
-/

set_option relaxedAutoImplicit false
set_option autoImplicit false

namespace InFlight

/-! ## Numbers of calls -/

/-- The number of the last element of a list with some property, the elements counted from one; zero
if none of them has it. -/
def lastNumber {α : Type} (p : α → Prop) [DecidablePred p] (xs : List α) : Nat :=
  (xs.zipIdx 1).foldl (fun last x => if p x.1 then x.2 else last) 0

section LastNumber

variable {α : Type} (p : α → Prop) [DecidablePred p] (xs : List α)

/-- One more element is the last one, if it has the property. -/
lemma lastNumber_concat (x : α) :
    lastNumber p (xs ++ [x]) = if p x then xs.length + 1 else lastNumber p xs := by
  simp [lastNumber, List.zipIdx_append, Nat.add_comm]

/-- No element has a number that is still to come. -/
lemma lastNumber_le : lastNumber p xs ≤ xs.length := by
  induction xs using List.reverseRecOn with
  | nil => exact le_rfl
  | append_singleton xs x ih =>
    rw [lastNumber_concat, List.length_append, List.length_singleton]
    split_ifs <;> omega

end LastNumber

namespace Outcome

/-- The number of the last of some calls that returned slot `i`, the calls counted from one and
given by their outcomes; zero if none of them did. -/
def lastTouch (outcomes : List Outcome) (i : Nat) : Nat :=
  lastNumber (fun outcome => outcome.slot = i) outcomes

variable {outcomes : List Outcome} {i t : Nat}

/-- One more call touches the slot that it returns, and no other. -/
lemma lastTouch_concat (outcomes : List Outcome) (outcome : Outcome) (i : Nat) :
    lastTouch (outcomes ++ [outcome]) i =
      if outcome.slot = i then outcomes.length + 1 else lastTouch outcomes i :=
  lastNumber_concat (fun o : Outcome => o.slot = i) outcomes outcome

/-- No slot was touched by a call that is still to come. -/
lemma lastTouch_le (outcomes : List Outcome) (i : Nat) :
    lastTouch outcomes i ≤ outcomes.length :=
  lastNumber_le (fun o : Outcome => o.slot = i) outcomes

/-- A slot was last touched no earlier than by any call that returned it. -/
lemma lt_lastTouch (h : outcomes[t]?.map Outcome.slot = some i) :
    t < lastTouch outcomes i := by
  induction outcomes using List.reverseRecOn with
  | nil => simp at h
  | append_singleton outcomes outcome ih =>
    obtain ⟨o, hget, hslot⟩ := Option.map_eq_some_iff.1 h
    have hlt : t < (outcomes ++ [outcome]).length := (List.getElem?_eq_some_iff.1 hget).1
    rw [List.length_append, List.length_singleton] at hlt
    rw [lastTouch_concat]
    split_ifs with hi
    · exact hlt
    · rcases Nat.lt_succ_iff_lt_or_eq.1 hlt with hbefore | rfl
      · rw [List.getElem?_append_left hbefore] at hget
        exact ih (by rw [hget, Option.map_some, hslot])
      · rw [List.getElem?_concat_length, Option.some.injEq] at hget
        exact absurd (hget ▸ hslot) hi

end Outcome

namespace Roster

open Outcome (lastTouch lastTouch_concat lastTouch_le lt_lastTouch)

variable {r : Roster} {outcomes : List Outcome} {i j : Nat}

/-! ## The parts of a run -/

/-- The outcome of a call is what it gives after the calls before it. -/
lemma getElem?_run (r : Roster) (calls : List Call) (u : Nat) :
    (r.run calls).2[u]? = calls[u]?.map fun c =>
      ((r.run (calls.take u)).1.record c.owner c.name c.payload c.now).2 := by
  induction calls generalizing r u with
  | nil => simp [run]
  | cons c calls ih =>
    cases u with
    | zero => rfl
    | succ u => exact ih (r.record c.owner c.name c.payload c.now).1 u

/-- The outcomes of the first calls are the first outcomes. -/
lemma run_take (r : Roster) (calls : List Call) (u : Nat) :
    (r.run (calls.take u)).2 = (r.run calls).2.take u := by
  induction calls generalizing r u with
  | nil => simp [run]
  | cons c calls ih =>
    cases u with
    | zero => rfl
    | succ u => exact congrArg (List.cons _) (ih (r.record c.owner c.name c.payload c.now).1 u)

/-! ## The order of last touches -/

/-- Every slot was touched by one of the calls, and the recency list ascends in the numbers of the
calls that touched its slots last. -/
structure Ordered (r : Roster) (outcomes : List Outcome) : Prop where
  touched : ∀ i ∈ r.recency, 0 < lastTouch outcomes i
  ascending : (r.recency.map (lastTouch outcomes)).Pairwise (· < ·)

namespace Ordered

/-- Before any call there is nothing to put in order. -/
lemma empty (limits : Limits) : (Roster.empty limits).Ordered [] where
  touched := by simp [Roster.empty]
  ascending := by simp [Roster.empty]

/-- A call keeps the order: it moves the slot that it returns behind the others, and its number
is higher than theirs. -/
lemma record (h : r.Ordered outcomes) (hv : r.Valid) (c : Call) :
    (r.record c.owner c.name c.payload c.now).1.Ordered
      (outcomes ++ [(r.record c.owner c.name c.payload c.now).2]) := by
  have hrec := hv.recorded_record c
  set outcome := (r.record c.owner c.name c.payload c.now).2
  have hnodup : r.recency.Nodup := hv.recency_perm.nodup_iff.2 List.nodup_range
  have hself : lastTouch (outcomes ++ [outcome]) outcome.slot = outcomes.length + 1 := by
    rw [lastTouch_concat, if_pos rfl]
  have hother : ∀ j ∈ r.recency.erase outcome.slot,
      lastTouch (outcomes ++ [outcome]) j = lastTouch outcomes j := by
    intro j hj
    rw [lastTouch_concat, if_neg]
    rintro rfl
    exact hnodup.not_mem_erase hj
  constructor
  · rw [hrec.recency]
    intro j hj
    rcases List.mem_append.1 hj with hj | hj
    · rw [hother j hj]
      exact h.touched j (List.mem_of_mem_erase hj)
    · rw [List.mem_singleton.1 hj, hself]
      omega
  · rw [hrec.recency, List.map_append, List.map_congr_left hother, List.pairwise_append]
    refine ⟨?_, by simp, ?_⟩
    · exact h.ascending.sublist (List.erase_sublist.map _)
    · intro s hs t ht
      obtain ⟨j, -, rfl⟩ := List.mem_map.1 hs
      rw [List.map_singleton, List.mem_singleton, hself] at ht
      have hle := lastTouch_le outcomes j
      omega

/-- Every run keeps the order. -/
lemma run (h : r.Ordered outcomes) (hv : r.Valid) (calls : List Call) :
    (r.run calls).1.Ordered (outcomes ++ (r.run calls).2) := by
  induction calls generalizing r outcomes with
  | nil => simpa [Roster.run] using h
  | cons c calls ih =>
    have hrun := ih (h.record hv c) (hv.record c)
    rwa [List.append_assoc] at hrun

/-- The head of the recency list was touched before every other slot. -/
lemma lt_of_head (h : r.Ordered outcomes) (hi : r.recency.head? = some i) (hj : j ∈ r.recency)
    (hne : j ≠ i) : lastTouch outcomes i < lastTouch outcomes j := by
  obtain ⟨rest, hrest⟩ := List.head?_eq_some_iff.1 hi
  have hasc := h.ascending
  rw [hrest, List.map_cons, List.pairwise_cons] at hasc
  rw [hrest] at hj
  exact hasc.1 _ (List.mem_map_of_mem ((List.mem_cons.1 hj).resolve_left hne))

/-- **Spacing**: since the last touch of the head of the recency list, every other slot has been
touched.

**Proof sketch.** The numbers of the other slots are distinct, above that of the head and none of
them above the number of calls. -/
lemma spacing (h : r.Ordered outcomes) (hi : r.recency.head? = some i) :
    lastTouch outcomes i + r.recency.length ≤ outcomes.length + 1 := by
  obtain ⟨rest, hrest⟩ := List.head?_eq_some_iff.1 hi
  have hasc := h.ascending
  rw [hrest, List.map_cons, List.pairwise_cons] at hasc
  have hsub : rest.map (lastTouch outcomes) ⊆
      List.range' (lastTouch outcomes i + 1) (outcomes.length - lastTouch outcomes i) := by
    intro t ht
    have habove := hasc.1 t ht
    obtain ⟨j, -, rfl⟩ := List.mem_map.1 ht
    have hle := lastTouch_le outcomes j
    exact List.mem_range'_1.2 ⟨by omega, by omega⟩
  have hcount := (List.Nodup.subperm (hasc.2.imp Nat.ne_of_lt) hsub).length_le
  have hle := lastTouch_le outcomes i
  rw [List.length_map, List.length_range'] at hcount
  rw [hrest, List.length_cons]
  omega

end Ordered

/-- The order after every run from an empty roster. -/
lemma ordered_run (limits : Limits) (calls : List Call) :
    ((empty limits).run calls).1.Ordered ((empty limits).run calls).2 :=
  (Ordered.empty limits).run (valid_empty limits) calls

/-- What is known of a slot that is evicted. -/
lemma Valid.of_evictedLru (h : r.Valid) {owner previous : OwnerId} {fp : Fingerprint}
    (hi : r.choose owner fp = .evictedLru i previous) :
    r.recency.head? = some i ∧ r.limits.globalSlots ≤ r.tasks.length := by
  have hc := h.chooses_choose owner fp
  rw [hi] at hc
  cases hc with
  | evictedLru _ _ hfull hleast => exact ⟨hleast, hfull⟩

/-- A slot is evicted no sooner than after as many calls as there are slots in a full arena.

**Proof sketch.** A victim is the head of the recency list of a full arena, so its distance to its
last touch is at least the number of slots (`Ordered.spacing`). -/
lemma le_of_evictedLru (limits : Limits) (calls : List Call) {t u : Nat} {previous : OwnerId}
    (htu : t < u) (htouch : ((empty limits).run calls).2[t]?.map Outcome.slot = some i)
    (hevicted : ((empty limits).run calls).2[u]? = some (.evictedLru i previous)) :
    t + (empty limits).limits.globalSlots ≤ u := by
  rw [getElem?_run] at hevicted
  obtain ⟨c, -, hchoose⟩ := Option.map_eq_some_iff.1 hevicted
  -- the roster before the evicting call
  have hv := valid_run limits (calls.take u)
  obtain ⟨hleast, hfull⟩ := hv.of_evictedLru hchoose
  have hspacing := (ordered_run limits (calls.take u)).spacing hleast
  rw [run_take, hv.length_recency] at hspacing
  rw [(valid_empty limits).limits_run] at hfull
  have hlast : t < lastTouch (((empty limits).run calls).2.take u) i :=
    lt_lastTouch (by rw [List.getElem?_take_of_lt htu, htouch])
  have hlength := List.length_take_le u ((empty limits).run calls).2
  omega

/-- Three accounts that record one after the other on two slots. -/
lemma run_three_accounts (payload : ByteArray) :
    ((empty ⟨2, 1⟩).run [⟨1, "a", payload, 1⟩, ⟨2, "b", payload, 2⟩, ⟨3, "c", payload, 3⟩]).2 =
      [.allocated 0, .allocated 1, .evictedLru 0 1] := by
  simp [run, record, recordFingerprint, choose, matching?, ownVictim?, victim?, apply, allocate,
    assign, ownerAt, slotsOf, empty, Limits.clamped]

end Roster

namespace Registry

open Outcome (lastTouch)

/-! ## Every run -/

/-- **The recency chain is the order of last touches**, after every run and whatever the limits:
it lists all slots, each touched by some call, in ascending order of the calls that touched them
last.  A further call leaves the slot that it returns at the recent end, and if it evicts a slot,
that is the slot whose last touch lies furthest back among all slots.  A slot is evicted no
sooner than after as many calls as there are slots in a full arena.

**Proof sketch.** The order is kept by every call (`Roster.Ordered.run`), a victim is the head of
the recency list, and `Roster.le_of_evictedLru` counts the calls in between. -/
theorem recency_run (limits : Limits) (calls : List Call) :
    let r := ((empty limits).run calls).1
    let outcomes := ((empty limits).run calls).2
    ((∀ i, i ∈ r.recencyOrder ↔ i < r.size) ∧
        (∀ i ∈ r.recencyOrder, 0 < lastTouch outcomes i) ∧
        (r.recencyOrder.map (lastTouch outcomes)).Pairwise (· < ·)) ∧
      (∀ c : Call,
        let next := r.record c.owner c.name c.payload c.now
        next.1.recency.last = some next.2.slot ∧
          ∀ i previous, next.2 = .evictedLru i previous →
            i < r.size ∧ ∀ j < r.size, j ≠ i → lastTouch outcomes i < lastTouch outcomes j) ∧
      ∀ t u i previous, t < u → outcomes[t]?.map Outcome.slot = some i →
        outcomes[u]? = some (.evictedLru i previous) → t + max limits.globalSlots 1 ≤ u := by
  intro r outcomes
  obtain ⟨hspells, houtcomes⟩ := (spells_empty limits).run (Roster.valid_empty limits) calls
  have hv := Roster.valid_run limits calls
  have hordered := Roster.ordered_run limits calls
  have hsize : r.size = ((Roster.empty limits).run calls).1.tasks.length := hspells.size_eq
  rw [← houtcomes] at hordered
  refine ⟨⟨?_, ?_, ?_⟩, fun c => ⟨?_, ?_⟩, ?_⟩
  · intro i
    rw [hspells.recencyOrder_eq, hv.mem_recency, hsize]
  · rw [hspells.recencyOrder_eq]
    exact hordered.touched
  · rw [hspells.recencyOrder_eq]
    exact hordered.ascending
  · exact hspells.last_recordFingerprint hv c.owner c.name (Fingerprint.compute c.payload) c.now
  · intro i previous hevicted
    have hchoose := (hspells.choose_eq c.owner (Fingerprint.compute c.payload)).symm.trans hevicted
    obtain ⟨hleast, -⟩ := hv.of_evictedLru hchoose
    rw [hsize]
    refine ⟨hv.mem_recency.1 (List.mem_of_head? hleast), fun j hj hne => ?_⟩
    exact hordered.lt_of_head hleast (hv.mem_recency.2 hj) hne
  · intro t u i previous htu htouch hevicted
    simp only [outcomes, houtcomes] at htouch hevicted
    exact Roster.le_of_evictedLru limits calls htu htouch hevicted

/-- Three accounts share two slots: the third takes over the slot of the first, which was touched
before the other slot and just two calls ago. -/
theorem recency_three_accounts :
    let two : List Call := [⟨1, "a", .empty, 1⟩, ⟨2, "b", .empty, 2⟩]
    let r := ((empty ⟨2, 1⟩).run two).1
    let outcomes := ((empty ⟨2, 1⟩).run (two ++ [⟨3, "c", .empty, 3⟩])).2
    (r.record 3 "c" .empty 3).2 = .evictedLru 0 1 ∧
      (∀ j < r.size, j ≠ 0 → lastTouch ((empty ⟨2, 1⟩).run two).2 0 <
        lastTouch ((empty ⟨2, 1⟩).run two).2 j) ∧
      outcomes = [.allocated 0, .allocated 1, .evictedLru 0 1] ∧ 0 + max 2 1 ≤ 2 := by
  intro two r outcomes
  have houtcomes : outcomes = [.allocated 0, .allocated 1, .evictedLru 0 1] := by
    have hrun := ((spells_empty ⟨2, 1⟩).run (Roster.valid_empty ⟨2, 1⟩)
      (two ++ [⟨3, "c", .empty, 3⟩])).2
    exact hrun.trans (Roster.run_three_accounts .empty)
  have hevicted : (r.record 3 "c" .empty 3).2 = .evictedLru 0 1 := by
    have hlast := congrArg List.getLast? houtcomes
    exact Option.some.inj hlast
  refine ⟨hevicted, ?_, houtcomes, ?_⟩
  · exact (((recency_run ⟨2, 1⟩ two).2.1 ⟨3, "c", .empty, 3⟩).2 0 1 hevicted).2
  · refine (recency_run ⟨2, 1⟩ (two ++ [⟨3, "c", .empty, 3⟩])).2.2 0 2 0 1 (by decide) ?_ ?_
    · exact congrArg (fun os => os[0]?.map Outcome.slot) houtcomes
    · exact congrArg (fun os => os[2]?) houtcomes

end Registry

end InFlight
