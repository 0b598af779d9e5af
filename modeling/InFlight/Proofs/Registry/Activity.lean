import InFlight.Proofs.Ranking.Tally
import InFlight.Proofs.Registry.Refinement
import InFlight.Registry.Activity

/-!
# The tasks of an account

An account's chain lists its slots in the order in which they were assigned to it, the arena lists
all slots by number.  As long as the numbers ascend along the chain, the two orders agree, and
the row of the account in a ranking can be read off its own tasks.

## Main definitions

* `InFlight.Registry.tasksOf`, `InFlight.Roster.tasksOf` — the tasks of an account, chain order.

## Main results

* `InFlight.Roster.Valid.length_slotsOf` — how many slots an account has.
* `InFlight.Roster.Valid.filter_tasks` — the tasks of an account in arena order.
* `InFlight.Registry.filter_rank_congr` — the row of an account in the ranking only depends on its
  own tasks.
-/

set_option relaxedAutoImplicit false
set_option autoImplicit false

namespace InFlight

/-! ## The two orders -/

namespace Roster

variable {r : Roster} {o : OwnerId}

/-- The tasks of an account in the order in which their slots were assigned to it. -/
def tasksOf (r : Roster) (o : OwnerId) : List Task := (r.slotsOf o).filterMap fun i => r.tasks[i]?

/-- A list is read off at the positions that it has. -/
lemma map_range_getElem? (tasks : List Task) :
    (List.range tasks.length).map (fun i => tasks[i]?) = tasks.map some := by
  refine List.ext_getElem (by simp) fun i hi _ => ?_
  rw [List.length_map, List.length_range] at hi
  simp [hi]

/-- The tasks of all slots are all tasks. -/
lemma filterMap_range_getElem? (tasks : List Task) :
    (List.range tasks.length).filterMap (fun i => tasks[i]?) = tasks := by
  have hread := congrArg (List.filterMap id) (map_range_getElem? tasks)
  simpa [List.filterMap_map, Function.comp_def] using hread

/-- The slots of an account are the slots of the arena that it owns. -/
lemma Valid.filter_range_perm (h : r.Valid) (o : OwnerId) :
    ((List.range r.tasks.length).filter fun i => (r.tasks[i]?).map Task.owner = some o).Perm
      (r.slotsOf o) := by
  refine (List.perm_ext_iff_of_nodup (List.nodup_range.filter _) (h.nodup_slotsOf o)).2 fun i => ?_
  rw [List.mem_filter, List.mem_range, decide_eq_true_iff, ← h.mem_slotsOf, and_iff_right_iff_imp]
  exact h.lt_length

/-- An account has as many slots as there are tasks of it in the arena. -/
lemma Valid.length_slotsOf (h : r.Valid) (o : OwnerId) :
    (r.slotsOf o).length = r.tasks.countP fun t => t.owner = o := by
  rw [← (h.filter_range_perm o).length_eq, ← List.countP_eq_length_filter]
  have hread := congrArg (List.countP fun t => t.map Task.owner = some o)
    (map_range_getElem? r.tasks)
  rw [List.countP_map, List.countP_map] at hread
  simpa [Function.comp_def] using hread

/-- The slots of an account by number. -/
lemma Valid.filter_range (h : r.Valid) (hasc : (r.slotsOf o).Pairwise (· < ·)) :
    (List.range r.tasks.length).filter (fun i => (r.tasks[i]?).map Task.owner = some o) =
      r.slotsOf o := by
  have hanti : ∀ i j : Nat, i < j → j < i → i = j := fun _ _ hij hji => absurd hij hji.asymm
  exact (h.filter_range_perm o).eq_of_pairwise (fun i j _ _ => hanti i j)
    (List.pairwise_lt_range.filter _) hasc

/-- **The two orders agree**: if the slot numbers ascend along the list of an account, its tasks
stand in the same order in the arena. -/
theorem Valid.filter_tasks (h : r.Valid) (hasc : (r.slotsOf o).Pairwise (· < ·)) :
    r.tasks.filter (fun t => t.owner = o) = r.tasksOf o := by
  have hread := congrArg (List.filter fun t => t.owner = o) (filterMap_range_getElem? r.tasks)
  rw [← hread, tasksOf, ← h.filter_range hasc, List.filter_filterMap, List.filterMap_filter]
  refine List.filterMap_congr fun i _ => ?_
  cases r.tasks[i]? with
  | none => rfl
  | some t => simp [Option.filter]

end Roster

/-! ## The row of an account -/

namespace Registry

variable {r r' : Registry} {ro : Roster} {o : OwnerId}

/-- The tasks of an account in the order in which their slots were assigned to it. -/
def tasksOf (r : Registry) (o : OwnerId) : List Task :=
  (r.slotsOf o).filterMap fun i => r.tasks[i]?

/-- The length of an account's chain is the number of tasks of the account. -/
lemma Spells.length_chainOf (h : r.Spells ro) (hv : ro.Valid) (o : OwnerId) :
    (r.chainOf o).length = r.tasks.toList.countP fun t => t.owner = o := by
  rw [(h.chainOf o).length, hv.length_slotsOf, h.tasks]

/-- The tasks of an account are those of the roster. -/
lemma Spells.tasksOf_eq (h : r.Spells ro) (o : OwnerId) : r.tasksOf o = ro.tasksOf o := by
  simp only [Registry.tasksOf, Roster.tasksOf, h.slotsOf_eq, h.getElem?_tasks]

/-- The ranking counts the active tasks. -/
lemma rank_eq (r : Registry) (window now : Int) :
    r.rank window none now = (Ranking.Tally.ofEntries
      ((r.activeTasks (now - Ranking.effectiveWindow window)).map fun t =>
        (t.owner, t.name))).finish none := by
  rw [rank, rankSince, Ranking.Tally.ofEntries, List.foldl_map]

/-- The active tasks of an account are those of its tasks that are active. -/
lemma filter_activeTasks (r : Registry) (cutoff : Int) (o : OwnerId) :
    (r.activeTasks cutoff).filter (fun t => t.owner = o) =
      (r.tasks.toList.filter fun t => t.owner = o).filter fun t => cutoff ≤ t.updatedAt := by
  simp only [activeTasks, List.filter_filter, Bool.and_comm]

/-- **The row of an account in the ranking** only depends on the tasks of that account in arena
order, whatever the window and the time. -/
theorem filter_rank_congr
    (h : (r.tasks.toList.filter fun t => t.owner = o) = r'.tasks.toList.filter fun t => t.owner = o)
    (window now : Int) :
    (r.rank window none now).filter (fun row => row.owner = o) =
      (r'.rank window none now).filter fun row => row.owner = o := by
  have hentries : ∀ (q : Registry) (cutoff : Int),
      ((q.activeTasks cutoff).map fun t => (t.owner, t.name)).filter (fun e => e.1 = o) =
        ((q.tasks.toList.filter fun t => t.owner = o).filter fun t => cutoff ≤ t.updatedAt).map
          fun t => (t.owner, t.name) := by
    intro q cutoff
    rw [List.filter_map, ← filter_activeTasks]
    rfl
  rw [rank_eq, rank_eq]
  refine Ranking.Tally.filter_finish_congr ?_
  rw [hentries, hentries, h]

end Registry

end InFlight
