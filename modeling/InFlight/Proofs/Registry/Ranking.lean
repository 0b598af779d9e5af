import InFlight.Proofs.Ranking.Order
import InFlight.Proofs.Registry.Activity

/-!
# What a ranking says about the arena

The ranking of a registry lists every account with a slot in the window once, with the number of
these slots and the name on the first of them in the arena.  Higher counts come first, and among
equal counts the account whose first slot in the window has the lower number.  No other list has
these properties.

## Main definitions

* `InFlight.Registry.activeCount`, `InFlight.Registry.firstActive` — how many slots of an account
  are in a window, and the first of them.
* `InFlight.Registry.Ranked` — the properties that make a list of rows the ranking.

## Main results

* `InFlight.Registry.ranked_rank`, `InFlight.Registry.Ranked.eq` — the ranking has these properties,
  and only one list has them.
* `InFlight.Registry.rank_contract` — rankings of every arena, with limits and thresholds.

## Design

Nothing is asked of the registry: slots, owners and times stand in the arena in any order, and links
and chains do not matter.
-/

set_option relaxedAutoImplicit false
set_option autoImplicit false

namespace InFlight

namespace Registry

/-! ## Slots in a window -/

/-- How many slots of an account were touched at or after a cutoff. -/
def activeCount (r : Registry) (cutoff : Int) (o : OwnerId) : Nat :=
  r.tasks.toList.countP fun t => t.owner = o ∧ cutoff ≤ t.updatedAt

/-- The first slot of an account that was touched at or after a cutoff; the number of all slots if
there is none. -/
def firstActive (r : Registry) (cutoff : Int) (o : OwnerId) : Nat :=
  r.tasks.toList.findIdx fun t => t.owner = o ∧ cutoff ≤ t.updatedAt

/-- What makes a list of rows the ranking of the slots touched at or after a cutoff: the accounts
with such a slot are listed, each of them once, with the number of their slots and the name on the
first, by descending count and then in the order of their first slots. -/
structure Ranked (r : Registry) (cutoff : Int) (rows : List Ranking.Row) : Prop where
  nodup_owners : (rows.map Ranking.Row.owner).Nodup
  mem_owners : ∀ o, o ∈ rows.map Ranking.Row.owner ↔
    ∃ t ∈ r.tasks.toList, t.owner = o ∧ cutoff ≤ t.updatedAt
  activeSlots : ∀ row ∈ rows, row.activeSlots = r.activeCount cutoff row.owner
  name : ∀ row ∈ rows,
    (r.tasks[r.firstActive cutoff row.owner]?).map Task.name = some row.name
  sorted : rows.Pairwise fun a b => b.activeSlots < a.activeSlots ∨
    b.activeSlots = a.activeSlots ∧ r.firstActive cutoff a.owner < r.firstActive cutoff b.owner

variable {r : Registry} {cutoff : Int} {rows rows' : List Ranking.Row} {o o' : OwnerId}

namespace Ranked

/-- Whether a row is listed depends on the row alone. -/
lemma mem_iff (h : r.Ranked cutoff rows) {row : Ranking.Row} :
    row ∈ rows ↔ (∃ t ∈ r.tasks.toList, t.owner = row.owner ∧ cutoff ≤ t.updatedAt) ∧
      row.activeSlots = r.activeCount cutoff row.owner ∧
      (r.tasks[r.firstActive cutoff row.owner]?).map Task.name = some row.name := by
  constructor
  · intro hrow
    exact ⟨(h.mem_owners _).1 (List.mem_map_of_mem hrow), h.activeSlots row hrow, h.name row hrow⟩
  · rintro ⟨hactive, hcount, hname⟩
    obtain ⟨listed, hlisted, howner⟩ := List.mem_map.1 ((h.mem_owners _).2 hactive)
    have hcount' := h.activeSlots listed hlisted
    have hname' := h.name listed hlisted
    rw [howner] at hcount' hname'
    have hsame : row = listed := by
      obtain ⟨o, name, activeSlots⟩ := row
      obtain ⟨o', name', activeSlots'⟩ := listed
      simp only at howner hcount hcount' hname hname'
      rw [howner, hcount, hcount', Option.some.inj (hname.symm.trans hname')]
    exact hsame ▸ hlisted

/-- **There is one ranking.**

**Proof sketch.** Two rankings have the same rows, each once, and both are sorted in the same strict
order. -/
theorem eq (h : r.Ranked cutoff rows) (h' : r.Ranked cutoff rows') : rows = rows' := by
  have hperm : rows.Perm rows' :=
    (List.perm_ext_iff_of_nodup h.nodup_owners.of_map h'.nodup_owners.of_map).2 fun row => by
      rw [h.mem_iff, h'.mem_iff]
  exact hperm.eq_of_pairwise
    (fun a b _ _ hab hba => absurd hba (Ranking.Outranks.asymm hab)) h.sorted h'.sorted

end Ranked

/-! ## The slots counted -/

/-- What is counted for a ranking: the account and the name of every slot touched at or after a
cutoff, in arena order. -/
def activeEntries (r : Registry) (cutoff : Int) : List (OwnerId × String) :=
  (r.activeTasks cutoff).map fun t => (t.owner, t.name)

/-- The accounts that are counted are those with an active task. -/
lemma mem_owners_activeEntries : o ∈ Ranking.owners (r.activeEntries cutoff) ↔
    ∃ t ∈ r.tasks.toList, t.owner = o ∧ cutoff ≤ t.updatedAt := by
  simp only [Ranking.mem_owners, activeEntries, activeTasks, List.mem_map, List.mem_filter,
    decide_eq_true_eq]
  constructor
  · rintro ⟨-, ⟨t, ⟨ht, hactive⟩, rfl⟩, howner⟩
    exact ⟨t, ht, howner, hactive⟩
  · rintro ⟨t, ht, howner, hactive⟩
    exact ⟨_, ⟨t, ⟨ht, hactive⟩, rfl⟩, howner⟩

/-- The row of an account counts its active slots. -/
lemma activeSlots_rowOf (r : Registry) (cutoff : Int) (o : OwnerId) :
    (Ranking.rowOf (r.activeEntries cutoff) o).activeSlots = r.activeCount cutoff o := by
  simp only [Ranking.rowOf, activeEntries, activeTasks, activeCount, List.countP_map,
    List.countP_filter, Function.comp_def, Bool.decide_and]

/-- The name in the row of an account is the one on its first slot. -/
lemma name_rowOf (h : o ∈ Ranking.owners (r.activeEntries cutoff)) :
    (r.tasks[r.firstActive cutoff o]?).map Task.name =
      some (Ranking.rowOf (r.activeEntries cutoff) o).name := by
  have hfind : (r.activeEntries cutoff).find? (fun e => e.1 = o) =
      (r.tasks[r.firstActive cutoff o]?).map fun t => (t.owner, t.name) := by
    rw [← Array.getElem?_toList, firstActive, ← List.find?_eq_getElem?_findIdx, activeEntries,
      activeTasks, List.find?_map, List.find?_filter]
    simp only [Function.comp_def, Bool.decide_and, Bool.decide_eq_true, Bool.and_comm]
  obtain ⟨e, he, howner⟩ := Ranking.mem_owners.1 h
  cases hat : r.tasks[r.firstActive cutoff o]? with
  | none =>
    rw [hat] at hfind
    exact absurd (decide_eq_true howner) (List.find?_eq_none.1 hfind e he)
  | some t =>
    rw [hat] at hfind
    simp [Ranking.rowOf, hfind]

/-- Which of two properties is met first among the elements with another property. -/
lemma findIdx_lt_of_filter {α : Type} {p q q' : α → Bool} {xs : List α}
    (h : (xs.filter p).findIdx q < (xs.filter p).findIdx q') :
    (xs.findIdx fun x => q x && p x) < xs.findIdx fun x => q' x && p x := by
  induction xs with
  | nil => simp at h
  | cons x xs ih =>
    by_cases hp : p x = true
    · rw [List.filter_cons_of_pos hp] at h
      simp only [List.findIdx_cons, hp, Bool.and_true] at h ⊢
      cases hq : q x <;> cases hq' : q' x <;>
        simp only [hq, hq', cond_true, cond_false, Nat.add_lt_add_iff_right] at h ⊢
      · exact ih h
      all_goals omega
    · rw [List.filter_cons_of_neg hp] at h
      have hlt := ih h
      simp only [List.findIdx_cons, hp, Bool.and_false, cond_false]
      omega

/-- The order of first slots among the slots in the window is their order in the arena. -/
lemma firstActive_lt (h : ((r.activeEntries cutoff).findIdx fun e => e.1 = o) <
    (r.activeEntries cutoff).findIdx fun e => e.1 = o') :
    r.firstActive cutoff o < r.firstActive cutoff o' := by
  rw [activeEntries, List.findIdx_map, List.findIdx_map] at h
  simpa only [firstActive, Function.comp_def, Bool.decide_and] using findIdx_lt_of_filter h

/-! ## Every ranking -/

/-- A ranking is the tally of the active entries, put in order. -/
lemma rank_eq_finish (r : Registry) (window now : Int) :
    r.rank window none now = (Ranking.Tally.ofEntries
      (r.activeEntries (now - Ranking.effectiveWindow window))).finish none :=
  r.rank_eq window now

/-- The rows of a ranking, in another order. -/
lemma rank_perm (r : Registry) (window now : Int) :
    let entries := r.activeEntries (now - Ranking.effectiveWindow window)
    (r.rank window none now).Perm ((Ranking.owners entries).map (Ranking.rowOf entries)) := by
  intro entries
  rw [rank_eq_finish, ← (Ranking.Tally.counts_ofEntries entries).rows]
  exact Ranking.Tally.finish_perm _

/-- **The ranking is a ranking** of the slots in the window.

**Proof sketch.** The rows are those of the tally of the slots in the window, and what is true of
these slots by themselves is carried over to the arena. -/
theorem ranked_rank (r : Registry) (window now : Int) :
    r.Ranked (now - Ranking.effectiveWindow window) (r.rank window none now) := by
  set cutoff := now - Ranking.effectiveWindow window
  set entries := r.activeEntries cutoff
  have hperm : (r.rank window none now).Perm
      ((Ranking.owners entries).map (Ranking.rowOf entries)) := r.rank_perm window now
  have howners : ((r.rank window none now).map Ranking.Row.owner).Perm
      (Ranking.owners entries) := by
    have hmap := hperm.map Ranking.Row.owner
    rwa [List.map_map, show Ranking.Row.owner ∘ Ranking.rowOf entries = id from rfl, List.map_id]
      at hmap
  have hrow : ∀ row ∈ r.rank window none now,
      ∃ o ∈ Ranking.owners entries, Ranking.rowOf entries o = row := fun row hmem =>
    List.mem_map.1 (hperm.mem_iff.1 hmem)
  refine ⟨?_, ?_, ?_, ?_, ?_⟩
  · exact howners.nodup_iff.2 (Ranking.nodup_owners entries)
  · intro o
    rw [howners.mem_iff]
    exact mem_owners_activeEntries
  · intro row hmem
    obtain ⟨o, -, rfl⟩ := hrow row hmem
    exact r.activeSlots_rowOf cutoff o
  · intro row hmem
    obtain ⟨o, ho, rfl⟩ := hrow row hmem
    exact name_rowOf ho
  · have hplaces : ((Ranking.Tally.ofEntries entries).rows.toList).Pairwise
        fun a b => r.firstActive cutoff a.owner < r.firstActive cutoff b.owner := by
      rw [(Ranking.Tally.counts_ofEntries entries).rows, List.pairwise_map]
      exact (Ranking.pairwise_findIdx_owners entries).imp firstActive_lt
    rw [rank_eq_finish]
    exact Ranking.Tally.pairwise_finish _ hplaces

/-- **The contract of rankings**, for every arena, window and time.  One list is the ranking of
the slots in the window: every account with such a slot once, with their number and the name on
the first of them, by descending count and then by first slot.  A limit keeps the first rows of
it, and a threshold its longest beginning of rows that reach the threshold. -/
theorem rank_contract (r : Registry) (window now : Int) :
    let rows := r.rank window none now
    (∀ rows', r.Ranked (now - Ranking.effectiveWindow window) rows' ↔ rows' = rows) ∧
      (∀ limit, r.rank window (some limit) now = rows.take (min limit rows.length)) ∧
      ∀ threshold, Ranking.atLeast threshold rows =
        rows.takeWhile fun row => threshold ≤ row.activeSlots := by
  intro rows
  have hranked := r.ranked_rank window now
  refine ⟨fun rows' => ⟨fun h => h.eq hranked, ?_⟩, fun limit => ?_, fun threshold => ?_⟩
  · rintro rfl
    exact hranked
  · rw [← List.take_take, List.take_length]
    rfl
  · refine Ranking.atLeast_eq_takeWhile threshold ?_
    rw [show rows = _ from r.rank_eq_finish window now]
    exact Ranking.Tally.pairwise_finish_le _

end Registry

end InFlight
