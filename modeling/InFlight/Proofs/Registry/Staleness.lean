import InFlight.Proofs.Registry.Recency
import InFlight.Proofs.Registry.Stats

/-!
# Eviction under a clock that does not go back

The recency chain is kept by relinking slots, and the time of a slot is written where its task is.
If no call of a run is earlier than the one before, the two agree: times do not descend along the
recency chain.  So the slot that is evicted is one that was touched longest ago, and a slot that is
active in some window is safe as long as there is one that is not.

An account at its limit gives up its oldest slot by time and not by recency.  This does no harm,
since the slot that is given up becomes the most recent one in both orders.

## Main definitions

* `InFlight.Roster.Aged` — times do not descend along the recency list, and they are times of calls.

## Main results

* `InFlight.Roster.Aged.record`, `InFlight.Roster.Aged.run` — kept by a call and by a run.
* `InFlight.Registry.staleness_run` — the order of times and the victims, after every such run.
-/

set_option relaxedAutoImplicit false
set_option autoImplicit false

namespace InFlight

namespace Roster

variable {r r' : Roster} {i j : Nat} {task : Task} {done : List Call}

/-! ## The times of the slots -/

namespace Recorded

/-- The slot that is recorded has the time of its task. -/
lemma updatedAt_self (h : Recorded r r' i task) : r'.updatedAt i = task.updatedAt := by
  rw [updatedAt, h.getElem?_self]
  rfl

/-- Every other slot keeps its time. -/
lemma updatedAt_of_ne (h : Recorded r r' i task) (hj : j ≠ i) :
    r'.updatedAt j = r.updatedAt j := by
  rw [updatedAt, updatedAt, h.getElem?_of_ne j hj]

end Recorded

/-- Times do not descend along the recency list, and every slot has the time of one of the calls
`done`. -/
structure Aged (r : Roster) (done : List Call) : Prop where
  ascending : (r.recency.map r.updatedAt).Pairwise (· ≤ ·)
  timed : ∀ i ∈ r.recency, ∃ c ∈ done, r.updatedAt i = c.now

namespace Aged

/-- Before any call no slot is older than another. -/
lemma empty (limits : Limits) : (Roster.empty limits).Aged [] where
  ascending := by simp [Roster.empty]
  timed := by simp [Roster.empty]

/-- A call that is not earlier than those before keeps the order: the slot that it returns comes
last in recency, and no time is later than its own. -/
lemma record (h : r.Aged done) (hv : r.Valid) (c : Call) (hc : ∀ d ∈ done, d.now ≤ c.now) :
    (r.record c.owner c.name c.payload c.now).1.Aged (done ++ [c]) := by
  have hrec := hv.recorded_record c
  set outcome := (r.record c.owner c.name c.payload c.now).2
  set r' := (r.record c.owner c.name c.payload c.now).1
  have hnodup : r.recency.Nodup := hv.recency_perm.nodup_iff.2 List.nodup_range
  have hself : r'.updatedAt outcome.slot = c.now := hrec.updatedAt_self
  have hother : ∀ j ∈ r.recency.erase outcome.slot, r'.updatedAt j = r.updatedAt j := by
    intro j hj
    refine hrec.updatedAt_of_ne ?_
    rintro rfl
    exact hnodup.not_mem_erase hj
  have htimed : ∀ j ∈ r.recency.erase outcome.slot, ∃ d ∈ done, r'.updatedAt j = d.now := by
    intro j hj
    rw [hother j hj]
    exact h.timed j (List.mem_of_mem_erase hj)
  constructor
  · rw [hrec.recency, List.map_append, List.pairwise_append]
    refine ⟨?_, by simp, ?_⟩
    · rw [List.map_congr_left hother]
      exact h.ascending.sublist (List.erase_sublist.map _)
    · intro s hs t ht
      obtain ⟨j, hj, rfl⟩ := List.mem_map.1 hs
      obtain ⟨d, hd, hnow⟩ := htimed j hj
      rw [List.map_singleton, List.mem_singleton, hself] at ht
      rw [ht, hnow]
      exact hc d hd
  · rw [hrec.recency]
    intro j hj
    rcases List.mem_append.1 hj with hj | hj
    · obtain ⟨d, hd, hnow⟩ := htimed j hj
      exact ⟨d, List.mem_append_left _ hd, hnow⟩
    · rw [List.mem_singleton.1 hj, hself]
      exact ⟨c, by simp, rfl⟩

/-- Every run whose calls do not go back in time keeps the order. -/
lemma run (h : r.Aged done) (hv : r.Valid) (calls : List Call)
    (hclock : (done ++ calls).Pairwise fun c d => c.now ≤ d.now) :
    (r.run calls).1.Aged (done ++ calls) := by
  induction calls generalizing r done with
  | nil => simpa [Roster.run] using h
  | cons c calls ih =>
    have hc : ∀ d ∈ done, d.now ≤ c.now := fun d hd =>
      (List.pairwise_append.1 hclock).2.2 d hd c List.mem_cons_self
    have hsplit : done ++ c :: calls = (done ++ [c]) ++ calls := by simp
    rw [hsplit] at hclock ⊢
    exact ih (h.record hv c hc) (hv.record c) hclock

/-- No slot has an earlier time than the head of the recency list. -/
lemma le_of_head (h : r.Aged done) (hi : r.recency.head? = some i) (hj : j ∈ r.recency) :
    r.updatedAt i ≤ r.updatedAt j := by
  obtain ⟨rest, hrest⟩ := List.head?_eq_some_iff.1 hi
  have hasc := h.ascending
  rw [hrest, List.map_cons, List.pairwise_cons] at hasc
  rw [hrest] at hj
  rcases List.mem_cons.1 hj with rfl | hj
  · exact Int.le_refl _
  · exact hasc.1 _ (List.mem_map_of_mem hj)

end Aged

end Roster

namespace Registry

/-- **Eviction takes a stalest slot**, after every run whose calls do not go back in time and
whatever the limits: times do not descend along the recency chain, and if a further call evicts a
slot, no slot of any account was touched earlier.  So for every window and every time at which it
ends, the slot evicted is not active in it if some slot is not.

**Proof sketch.** The order is kept by every call (`Roster.Aged.run`), and a victim is the head of
the recency list, which has the least time (`Roster.Aged.le_of_head`). -/
theorem staleness_run (limits : Limits) (calls : List Call)
    (hclock : calls.Pairwise fun c d => c.now ≤ d.now) :
    let r := ((empty limits).run calls).1
    (r.recencyOrder.map r.updatedAt).Pairwise (· ≤ ·) ∧
      ∀ c : Call,
        let next := r.record c.owner c.name c.payload c.now
        ∀ i previous, next.2 = .evictedLru i previous →
          i < r.size ∧ next.1.tasks[i]? = some c.task ∧
            (∀ j < r.size, r.updatedAt i ≤ r.updatedAt j) ∧
            ∀ window now,
              (∃ j < r.size, r.updatedAt j < now - Ranking.effectiveWindow window) →
                r.updatedAt i < now - Ranking.effectiveWindow window := by
  intro r
  have hspells := spells_run limits calls
  have hv := Roster.valid_run limits calls
  have haged := (Roster.Aged.empty limits).run (Roster.valid_empty limits) calls hclock
  have hsize : r.size = ((Roster.empty limits).run calls).1.tasks.length := hspells.size_eq
  constructor
  · rw [hspells.recencyOrder_eq, hspells.updatedAt_eq]
    exact haged.ascending
  intro c next i previous hevicted
  have hchoose := (hspells.choose_eq c.owner (Fingerprint.compute c.payload)).symm.trans hevicted
  obtain ⟨hleast, -⟩ := hv.of_evictedLru hchoose
  have hi : i < r.size := by
    rw [hsize]
    exact hv.mem_recency.1 (List.mem_of_head? hleast)
  have htask : next.1.tasks[i]? = some c.task := by
    obtain ⟨hspells', houtcome⟩ :=
      hspells.recordFingerprint hv c.owner c.name (Fingerprint.compute c.payload) c.now
    have hslot : _ = i := congrArg Outcome.slot (houtcome.symm.trans hevicted)
    have hself := hslot ▸ (hv.recorded_record c).getElem?_self
    exact (hspells'.getElem?_tasks i).trans hself
  have hmin : ∀ j < r.size, r.updatedAt i ≤ r.updatedAt j := by
    intro j hj
    rw [hsize] at hj
    rw [hspells.updatedAt_eq]
    exact haged.le_of_head hleast (hv.mem_recency.2 hj)
  refine ⟨hi, htask, hmin, fun window now hstale => ?_⟩
  obtain ⟨j, hj, hlt⟩ := hstale
  exact Int.lt_of_le_of_lt (hmin j hj) hlt

/-- Three accounts share two slots.  In the window that begins at time 2 one of the slots is active
and the other is not, and the third account takes over the latter. -/
theorem staleness_three_accounts :
    let two : List Call := [⟨1, "a", .empty, 1⟩, ⟨2, "b", .empty, 2⟩]
    let r := ((empty ⟨2, 1⟩).run two).1
    let next := r.record 3 "c" .empty 3
    two.Pairwise (fun c d => c.now ≤ d.now) ∧ next.2 = .evictedLru 0 1 ∧
      (∃ j < r.size, r.updatedAt j < 12 - Ranking.effectiveWindow 10) ∧
      next.1.tasks[0]? = some (Call.mk 3 "c" .empty 3).task ∧ r.updatedAt 0 ≤ r.updatedAt 1 ∧
      r.updatedAt 0 < 12 - Ranking.effectiveWindow 10 ∧
      12 - Ranking.effectiveWindow 10 ≤ r.updatedAt 1 := by
  intro two r next
  have hclock : two.Pairwise fun c d => c.now ≤ d.now := by simp [two]
  have hevicted : next.2 = .evictedLru 0 1 := by
    have hrun := ((spells_empty ⟨2, 1⟩).run (Roster.valid_empty ⟨2, 1⟩)
      (two ++ [⟨3, "c", .empty, 3⟩])).2
    have hlast := congrArg List.getLast? (hrun.trans (Roster.run_three_accounts .empty))
    exact Option.some.inj hlast
  have hsize : r.size = 2 := size_run_two_accounts .empty
  have htimes : r.updatedAt 0 = 1 ∧ r.updatedAt 1 = 2 := by
    simp only [updatedAt, ← Array.getElem?_toList, r, two, tasks_run_two_accounts]
    exact ⟨rfl, rfl⟩
  have hcutoff : (12 : Int) - Ranking.effectiveWindow 10 = 2 := rfl
  have hstale : ∃ j < r.size, r.updatedAt j < 12 - Ranking.effectiveWindow 10 := by
    refine ⟨0, by omega, ?_⟩
    rw [htimes.1, hcutoff]
    decide
  obtain ⟨-, htask, hmin, hwindow⟩ :=
    (staleness_run ⟨2, 1⟩ two hclock).2 ⟨3, "c", .empty, 3⟩ 0 1 hevicted
  exact ⟨hclock, hevicted, hstale, htask, hmin 1 (hsize ▸ Nat.one_lt_two), hwindow 10 12 hstale,
    (hcutoff.trans htimes.2.symm).le⟩

end Registry

end InFlight
