import Mathlib.Algebra.BigOperators.Group.Finset.Basic
import Mathlib.Algebra.GroupWithZero.Nat
import InFlight.Proofs.Registry.Ranking
import InFlight.Proofs.Registry.WellFormed

/-!
# Counts of slots and accounts

The number of accounts is read off the index of chains, slots are counted in the arena, and the
ranking counts slots by account.  In every registry that is reached by recording the three agree:
the chains divide the slots among the accounts that own one, and so do the rows of a ranking with
the slots in a window.

## Main definitions

* `InFlight.Registry.reaching` — the accounts that reach a threshold.

## Main results

* `InFlight.Registry.sum_rank` — the rows of a ranking count every slot in the window once.
* `InFlight.Registry.countP_highActive` — rows listed for a threshold, counted by account.
* `InFlight.Registry.Spells.sum_length_chainOf` — the chains hold every slot once.
* `InFlight.Registry.stats_run` — counts and rankings after every run.
-/

set_option relaxedAutoImplicit false
set_option autoImplicit false

namespace InFlight

/-! ## Counting account by account -/

/-- How often an account occurs is how many elements belong to it. -/
lemma count_map_eq_countP {α : Type} (owner : α → OwnerId) (xs : List α) (o : OwnerId) :
    (xs.map owner).count o = xs.countP fun x => owner x = o := by
  rw [List.count_eq_countP, List.countP_map]
  rfl

section Counting

variable {keys owners : List OwnerId} (hnodup : keys.Nodup) (hkeys : ∀ o, o ∈ keys ↔ o ∈ owners)

include hnodup hkeys

/-- Accounts that are listed once each are as many as there are different accounts. -/
lemma length_eq_card_toFinset : keys.length = owners.toFinset.card := by
  rw [← List.toFinset_card_of_nodup hnodup]
  congr 1
  ext o
  simpa using hkeys o

/-- Counting account by account counts everything. -/
lemma sum_count_eq_length : (keys.map fun o => owners.count o).sum = owners.length := by
  have hsame : keys.toFinset = owners.toFinset := by
    ext o
    simpa using hkeys o
  rw [← List.sum_toFinset _ hnodup, hsame, List.sum_toFinset_count_eq_length]

end Counting

namespace Registry

variable {r : Registry} {ro : Roster} {o : OwnerId} {cutoff cutoff' : Int}

/-! ## Rankings -/

/-- The rows of a ranking count every slot in the window once. -/
lemma sum_rank (r : Registry) (window now : Int) :
    ((r.rank window none now).map Ranking.Row.activeSlots).sum =
      (r.activeTasks (now - Ranking.effectiveWindow window)).length := by
  set entries := r.activeEntries (now - Ranking.effectiveWindow window)
  have hcount : Ranking.Row.activeSlots ∘ Ranking.rowOf entries =
      fun o => (entries.map Prod.fst).count o :=
    funext fun o => (count_map_eq_countP Prod.fst entries o).symm
  have hkeys : ∀ o, o ∈ Ranking.owners entries ↔ o ∈ entries.map Prod.fst :=
    fun o => List.mem_eraseDups
  have hperm : (r.rank window none now).Perm
      ((Ranking.owners entries).map (Ranking.rowOf entries)) := r.rank_perm window now
  rw [(hperm.map _).sum_eq, List.map_map, hcount,
    sum_count_eq_length (Ranking.nodup_owners entries) hkeys]
  simp [entries, activeEntries]

/-- A longer window holds no fewer slots of an account. -/
lemma activeCount_anti (h : cutoff ≤ cutoff') :
    r.activeCount cutoff' o ≤ r.activeCount cutoff o := by
  refine List.countP_mono_left fun t _ ht => ?_
  simp only [decide_eq_true_eq] at ht ⊢
  exact ⟨ht.1, h.trans ht.2⟩

/-- An account has no more slots in a window than in all. -/
lemma activeCount_le (r : Registry) (cutoff : Int) (o : OwnerId) :
    r.activeCount cutoff o ≤ r.tasks.toList.countP fun t => t.owner = o := by
  refine List.countP_mono_left fun t _ ht => ?_
  simp only [decide_eq_true_eq] at ht ⊢
  exact ht.1

/-- An account that is ranked for a window is ranked for a longer one, with no lower count. -/
lemma exists_mem_rank_of_le {w w' now : Int}
    (h : Ranking.effectiveWindow w ≤ Ranking.effectiveWindow w') {row : Ranking.Row}
    (hrow : row ∈ r.rank w none now) :
    ∃ row' ∈ r.rank w' none now, row'.owner = row.owner ∧ row.activeSlots ≤ row'.activeSlots := by
  have hranked := r.ranked_rank w now
  have hranked' := r.ranked_rank w' now
  obtain ⟨t, ht, howner, hactive⟩ := (hranked.mem_owners _).1 (List.mem_map_of_mem hrow)
  obtain ⟨row', hrow', hsame⟩ :=
    List.mem_map.1 ((hranked'.mem_owners row.owner).2 ⟨t, ht, howner, by omega⟩)
  refine ⟨row', hrow', hsame, ?_⟩
  rw [hranked.activeSlots row hrow, hranked'.activeSlots row' hrow', hsame]
  exact activeCount_anti (by omega)

/-! ## Accounts that reach a threshold -/

/-- The accounts with at least `threshold` slots touched at or after a cutoff, and with at least
one. -/
def reaching (r : Registry) (cutoff : Int) (threshold : Nat) : Finset OwnerId :=
  (r.tasks.toList.map Task.owner).toFinset.filter fun o => max threshold 1 ≤ r.activeCount cutoff o

/-- An account counts if it has an active task. -/
lemma one_le_activeCount : 1 ≤ r.activeCount cutoff o ↔
    ∃ t ∈ r.tasks.toList, t.owner = o ∧ cutoff ≤ t.updatedAt := by
  rw [activeCount, Nat.one_le_iff_ne_zero, ← Nat.pos_iff_ne_zero, List.countP_pos_iff]
  simp only [decide_eq_true_eq]

/-- The accounts that reach a threshold and count at all. -/
lemma mem_reaching {threshold : Nat} : o ∈ r.reaching cutoff threshold ↔
    threshold ≤ r.activeCount cutoff o ∧ 1 ≤ r.activeCount cutoff o := by
  rw [reaching, Finset.mem_filter, List.mem_toFinset, List.mem_map, max_le_iff]
  refine ⟨And.right, fun h => ⟨?_, h⟩⟩
  obtain ⟨t, ht, howner, -⟩ := one_le_activeCount.1 h.2
  exact ⟨t, ht, howner⟩

section HighActive

variable (r) (window : Int) (threshold : Nat) (now : Int)

/-- No account reaches a threshold twice. -/
lemma nodup_owners_highActive :
    ((r.highActive window threshold now).map Ranking.Row.owner).Nodup :=
  (r.ranked_rank window now).nodup_owners.sublist (List.filter_sublist.map _)

/-- The accounts that are listed for a threshold are those that reach it and have a slot in the
window. -/
lemma mem_owners_highActive : o ∈ (r.highActive window threshold now).map Ranking.Row.owner ↔
    o ∈ r.reaching (now - Ranking.effectiveWindow window) threshold := by
  have hranked := r.ranked_rank window now
  rw [mem_reaching, one_le_activeCount, ← hranked.mem_owners, List.mem_map, List.mem_map]
  simp only [highActive, Ranking.atLeast, List.mem_filter, decide_eq_true_eq]
  constructor
  · rintro ⟨row, ⟨hrow, hthreshold⟩, rfl⟩
    exact ⟨hranked.activeSlots row hrow ▸ hthreshold, row, hrow, rfl⟩
  · rintro ⟨hthreshold, row, hrow, rfl⟩
    exact ⟨row, ⟨hrow, (hranked.activeSlots row hrow).symm ▸ hthreshold⟩, rfl⟩

/-- Rows that are listed for a threshold are counted by account. -/
lemma countP_highActive (p : OwnerId → Bool) :
    ((r.highActive window threshold now).countP fun row => p row.owner) =
      ((r.reaching (now - Ranking.effectiveWindow window) threshold).filter fun o => p o).card := by
  have howners : ((r.highActive window threshold now).countP fun row => p row.owner) =
      (((r.highActive window threshold now).map Ranking.Row.owner).filter p).length := by
    rw [← List.countP_eq_length_filter, List.countP_map]
    rfl
  have hnodup := (r.nodup_owners_highActive window threshold now).filter p
  rw [howners, ← List.toFinset_card_of_nodup hnodup]
  congr 1
  ext o
  rw [List.mem_toFinset, List.mem_filter, Finset.mem_filter, mem_owners_highActive]

end HighActive

/-! ## The index of chains -/

namespace Spells

variable (h : r.Spells ro) (hv : ro.Valid)

include h hv

/-- The accounts in the index are the owners of slots. -/
lemma mem_keys_owners (o : OwnerId) :
    o ∈ r.owners.keys ↔ o ∈ r.tasks.toList.map Task.owner := by
  rw [Std.TreeMap.mem_keys, Std.TreeMap.mem_iff_isSome_getElem?, h.isSome_owners,
    hv.isSome_owned_iff, List.mem_map]
  simp only [← h.slotsOf_eq, h.mem_slotsOf hv]
  constructor
  · rintro ⟨i, hi, ho⟩
    exact ⟨r.tasks[i], Array.getElem_mem_toList hi, ho⟩
  · rintro ⟨t, ht, ho⟩
    obtain ⟨i, hi, rfl⟩ := Array.getElem_of_mem (Array.mem_toList_iff.1 ht)
    exact ⟨i, hi, ho⟩

/-- The index has as many accounts as own slots. -/
lemma size_owners : r.owners.size = (r.tasks.toList.map Task.owner).toFinset.card := by
  rw [← Std.TreeMap.length_keys]
  exact length_eq_card_toFinset Std.TreeMap.nodup_keys (h.mem_keys_owners hv)

/-- The chains hold every slot once. -/
lemma sum_length_chainOf :
    (r.owners.keys.map fun o => (r.chainOf o).length).sum = r.size := by
  have hlength : ∀ o, (r.chainOf o).length = (r.tasks.toList.map Task.owner).count o := fun o => by
    rw [h.length_chainOf hv, count_map_eq_countP]
  simp only [hlength]
  rw [sum_count_eq_length Std.TreeMap.nodup_keys (h.mem_keys_owners hv)]
  simp [size]

/-- A ranking has no more rows than there are accounts in the index. -/
lemma length_rank_le (window now : Int) : (r.rank window none now).length ≤ r.owners.size := by
  have hranked := r.ranked_rank window now
  have hsub : (r.rank window none now).map Ranking.Row.owner ⊆ r.owners.keys := by
    intro o ho
    obtain ⟨t, ht, howner, -⟩ := (hranked.mem_owners o).1 ho
    exact (h.mem_keys_owners hv o).2 (List.mem_map.2 ⟨t, ht, howner⟩)
  have hle := (hranked.nodup_owners.subperm hsub).length_le
  rwa [List.length_map, Std.TreeMap.length_keys] at hle

end Spells

/-! ## Every run -/

/-- Two calls get a slot each if there is room for two slots, and if, where both are of one account,
this may own two slots and the second payload does not continue the first. -/
lemma tasks_run_pair {limits : Limits} {c c' : Call} (hglobal : 2 ≤ limits.globalSlots)
    (hown : c.owner = c'.owner → 2 ≤ limits.ownerSlots ∧
      (Fingerprint.compute c.payload).continues (Fingerprint.compute c'.payload) = false) :
    ((empty limits).run [c, c']).1.tasks.toList = [c.task, c'.task] := by
  have hroom : ¬limits.globalSlots ≤ 1 := by omega
  rw [(spells_run limits _).tasks]
  by_cases howner : c.owner = c'.owner
  · obtain ⟨hownRoom, hcontinues⟩ := hown howner
    have hownRoom : ¬limits.ownerSlots ≤ 1 := by omega
    simp [Roster.run, Roster.record, Roster.recordFingerprint, Roster.choose, Roster.matching?,
      Roster.ownVictim?, Roster.victim?, Roster.apply, Roster.allocate, Roster.assign,
      Roster.continuedBy, Roster.slotsOf, Roster.empty, Limits.clamped, Call.task, howner,
      hcontinues, hroom, hownRoom]
  · simp [Roster.run, Roster.record, Roster.recordFingerprint, Roster.choose, Roster.matching?,
      Roster.ownVictim?, Roster.victim?, Roster.apply, Roster.allocate, Roster.assign,
      Roster.slotsOf, Roster.empty, Limits.clamped, Call.task, Function.update_of_ne (Ne.symm howner),
      hroom]

/-- Two accounts with one slot each. -/
lemma tasks_run_two_accounts (payload : ByteArray) :
    ((empty ⟨2, 1⟩).run [⟨1, "a", payload, 1⟩, ⟨2, "b", payload, 2⟩]).1.tasks.toList =
      [⟨1, "a", 1, Fingerprint.compute payload⟩, ⟨2, "b", 2, Fingerprint.compute payload⟩] :=
  tasks_run_pair (by decide) fun howner => absurd howner (show (1 : OwnerId) ≠ 2 by decide)

/-- Two accounts with one slot each, ranked for a window in which both were touched. -/
lemma rank_run_two_accounts (payload : ByteArray) {window now : Int}
    (hcutoff : now - Ranking.effectiveWindow window ≤ 1) :
    ((empty ⟨2, 1⟩).run [⟨1, "a", payload, 1⟩, ⟨2, "b", payload, 2⟩]).1.rank window none now =
      [⟨1, "a", 1⟩, ⟨2, "b", 1⟩] := by
  have hlater : now - Ranking.effectiveWindow window ≤ 2 := by omega
  have hactive : ((empty ⟨2, 1⟩).run [⟨1, "a", payload, 1⟩, ⟨2, "b", payload, 2⟩]).1.activeTasks
      (now - Ranking.effectiveWindow window) =
        [⟨1, "a", 1, Fingerprint.compute payload⟩, ⟨2, "b", 2, Fingerprint.compute payload⟩] := by
    rw [activeTasks, tasks_run_two_accounts]
    exact List.filter_eq_self.2 (List.forall_mem_cons.2 ⟨decide_eq_true hcutoff,
      List.forall_mem_singleton.2 (decide_eq_true hlater)⟩)
  have hsorted : [(⟨1, "a", 1⟩ : Ranking.Row), ⟨2, "b", 1⟩].Pairwise
      fun a b => decide (b.activeSlots ≤ a.activeSlots) = true := by decide
  rw [← List.mergeSort_of_pairwise hsorted, rank, rankSince, hactive]
  simp [Ranking.Tally.add, Ranking.Tally.empty, Ranking.Tally.finish]

/-- Two accounts with one slot each have two slots. -/
lemma size_run_two_accounts (payload : ByteArray) :
    ((empty ⟨2, 1⟩).run [⟨1, "a", payload, 1⟩, ⟨2, "b", payload, 2⟩]).1.size = 2 := by
  rw [size, ← Array.length_toList, tasks_run_two_accounts]
  rfl

/-- **Counts and rankings agree** in every reached registry, whatever the limits and the time.
The index has as many accounts as own slots in the arena, its chains hold every slot once, and the
slots counted as active are those that the ranking for the default window counts.  There are no
more of them than slots, and no more slots than the limit.  A ranking has no more rows than there
are accounts, and counts for none of them more slots than its chain holds, which respects the
limit.  With a longer window no account loses in count.

**Proof sketch.** The registry spells a valid roster, so the chain of an account has as many slots
as there are tasks of it (`Spells.length_chainOf`).  Sums over accounts count everything once
since each account stands once in the index and once in a ranking. -/
theorem stats_run (limits : Limits) (calls : List Call) (now : Int) :
    let r := ((empty limits).run calls).1
    let stats := r.stats now
    stats.activeOwners = (r.tasks.toList.map Task.owner).toFinset.card ∧
      stats.activeSlots =
        ((r.rank Ranking.defaultWindow none now).map Ranking.Row.activeSlots).sum ∧
      stats.activeSlots ≤ stats.totalSlots ∧ stats.totalSlots ≤ stats.maxGlobalSlots ∧
      stats.totalSlots = (r.owners.keys.map fun o => (r.chainOf o).length).sum ∧
      (∀ window, (r.rank window none now).length ≤ stats.activeOwners ∧
        ∀ row ∈ r.rank window none now, row.activeSlots ≤ (r.chainOf row.owner).length ∧
          row.activeSlots ≤ stats.maxOwnerSlots) ∧
      ∀ w w', Ranking.effectiveWindow w ≤ Ranking.effectiveWindow w' →
        ∀ row ∈ r.rank w none now, ∃ row' ∈ r.rank w' none now,
          row'.owner = row.owner ∧ row.activeSlots ≤ row'.activeSlots := by
  intro r stats
  have hspells : r.Spells ((Roster.empty limits).run calls).1 := spells_run limits calls
  have hv := Roster.valid_run limits calls
  have hsize : r.size ≤ r.limits.globalSlots := by
    rw [size, hspells.size_eq, hspells.limits]
    exact hv.length_tasks_le
  have hchain : ∀ o, (r.chainOf o).length ≤ r.limits.ownerSlots := fun o => by
    rw [(hspells.chainOf o).length, hspells.limits]
    exact hv.length_slotsOf_le o
  refine ⟨hspells.size_owners hv, (r.sum_rank Ranking.defaultWindow now).symm, ?_, hsize,
    (hspells.sum_length_chainOf hv).symm, fun window => ⟨hspells.length_rank_le hv window now, ?_⟩,
    fun w w' hle row hrow => exists_mem_rank_of_le hle hrow⟩
  · exact (List.length_filter_le _ _).trans_eq Array.length_toList
  · intro row hrow
    have hcount : row.activeSlots ≤ (r.chainOf row.owner).length := by
      rw [(r.ranked_rank window now).activeSlots row hrow, hspells.length_chainOf hv]
      exact r.activeCount_le _ _
    exact ⟨hcount, hcount.trans (hchain row.owner)⟩

/-- Of two accounts the second alone is in the shorter window, and it is still listed for the
longer one. -/
theorem stats_two_accounts :
    let r := ((empty ⟨2, 1⟩).run [⟨1, "a", .empty, 1⟩, ⟨2, "b", .empty, 2⟩]).1
    (⟨2, "b", 1⟩ : Ranking.Row) ∈ r.rank 9 none 11 ∧ 1 ≤ (r.chainOf 2).length ∧
      1 ≤ (r.stats 11).maxOwnerSlots ∧
      Ranking.effectiveWindow 9 ≤ Ranking.effectiveWindow 10 ∧
      ∃ row' ∈ r.rank 10 none 11, row'.owner = 2 ∧ 1 ≤ row'.activeSlots := by
  intro r
  have htasks := tasks_run_two_accounts .empty
  have hrow : (⟨2, "b", 1⟩ : Ranking.Row) ∈ r.rank 9 none 11 := by
    rw [(r.ranked_rank 9 11).mem_iff, activeCount, firstActive, ← Array.getElem?_toList]
    simp [r, htasks, Ranking.effectiveWindow, Ranking.maxWindow, List.findIdx_cons]
  obtain ⟨-, -, -, -, -, hrows, hwindows⟩ :=
    stats_run ⟨2, 1⟩ [⟨1, "a", .empty, 1⟩, ⟨2, "b", .empty, 2⟩] 11
  obtain ⟨hchain, hlimit⟩ := (hrows 9).2 _ hrow
  have hle : Ranking.effectiveWindow 9 ≤ Ranking.effectiveWindow 10 := by decide
  exact ⟨hrow, hchain, hlimit, hle, hwindows 9 10 hle _ hrow⟩

end Registry

end InFlight
