import Mathlib.Data.List.Induction
import Mathlib.Data.List.Nodup
import Mathlib.Tactic.Lemma
import InFlight.Ranking

/-!
# What a tally counts

A tally that has counted some slots holds one row for each account met, in the order in which the
accounts were met first; the row has the name of the account's first slot and the number of its
slots.  The ranking rearranges the rows, so the row of an account only depends on the slots of
that account.

## Main definitions

* `InFlight.Ranking.Tally.ofEntries` — the tally of a list of slots, each an account and a name.
* `InFlight.Ranking.owners`, `InFlight.Ranking.rowOf` — the accounts met and the row of each, read
  off the list.
* `InFlight.Ranking.Tally.Counts` — a tally holds what was counted.

## Main results

* `InFlight.Ranking.Tally.counts_ofEntries` — rows and positions of every tally.
* `InFlight.Ranking.Tally.filter_finish` — the row of an account in the ranking.
-/

set_option relaxedAutoImplicit false
set_option autoImplicit false

namespace InFlight

namespace Ranking

/-! ## What is counted -/

/-- The accounts of some slots in the order in which they are met first. -/
def owners (entries : List (OwnerId × String)) : List OwnerId :=
  (entries.map Prod.fst).eraseDups

/-- The row of an account: the name of its first slot and the number of its slots. -/
def rowOf (entries : List (OwnerId × String)) (o : OwnerId) : Row where
  owner := o
  name := (entries.find? fun e => e.1 = o).elim "" Prod.snd
  activeSlots := entries.countP fun e => e.1 = o

variable {entries entries' : List (OwnerId × String)} {o o' owner : OwnerId} {name : String}

/-- The owners are those of the entries. -/
lemma mem_owners : o ∈ owners entries ↔ ∃ e ∈ entries, e.1 = o := by
  rw [owners, List.mem_eraseDups, List.mem_map]

/-- One more slot adds its account, unless it was met before. -/
lemma owners_concat : owners (entries ++ [(owner, name)]) =
    if owner ∈ owners entries then owners entries else owners entries ++ [owner] := by
  have hmem : owner ∈ owners entries ↔ owner ∈ entries.map Prod.fst := List.mem_eraseDups
  rw [owners, List.map_append, List.map_singleton, List.eraseDups_append]
  by_cases h : owner ∈ owners entries
  · have hgone : [owner].removeAll (entries.map Prod.fst) = [] := by
      simpa [List.removeAll] using hmem.1 h
    rw [hgone, if_pos h, List.eraseDups_nil, List.append_nil, owners]
  · have hstays : [owner].removeAll (entries.map Prod.fst) = [owner] := by
      simpa [List.removeAll] using mt hmem.2 h
    rw [hstays, if_neg h]
    rfl

/-- Every account is met first only once. -/
lemma nodup_owners (entries : List (OwnerId × String)) : (owners entries).Nodup := by
  induction entries using List.reverseRecOn with
  | nil => exact List.nodup_nil
  | append_singleton entries e ih =>
    rw [owners_concat]
    split_ifs with h
    · exact ih
    · exact List.nodup_append_comm.1 (List.nodup_cons.2 ⟨h, ih⟩)

/-- A slot of one account leaves the rows of the others alone. -/
lemma rowOf_concat_of_ne (h : o ≠ owner) :
    rowOf (entries ++ [(owner, name)]) o = rowOf entries o := by
  simp [rowOf, List.find?_append, List.countP_append, h.symm]

/-- A further slot of an account is counted in its row, under the name that the row has. -/
lemma rowOf_concat_self (h : owner ∈ owners entries) :
    rowOf (entries ++ [(owner, name)]) owner =
      { rowOf entries owner with activeSlots := (rowOf entries owner).activeSlots + 1 } := by
  obtain ⟨e, he, howner⟩ := mem_owners.1 h
  cases hfind : entries.find? fun e => e.1 = owner with
  | none => exact absurd (decide_eq_true howner) (List.find?_eq_none.1 hfind e he)
  | some first => simp [rowOf, List.find?_append, List.countP_append, hfind]

/-- The first slot of an account opens its row. -/
lemma rowOf_concat_new (h : owner ∉ owners entries) :
    rowOf (entries ++ [(owner, name)]) owner = { owner, name, activeSlots := 1 } := by
  have hnone : ∀ e ∈ entries, ¬ e.1 = owner := fun e he howner =>
    h (mem_owners.2 ⟨e, he, howner⟩)
  have hfind : (entries.find? fun e => e.1 = owner) = none :=
    List.find?_eq_none.2 (by simpa using hnone)
  have hcount : (entries.countP fun e => e.1 = owner) = 0 :=
    List.countP_eq_zero.2 (by simpa using hnone)
  simp [rowOf, List.find?_append, List.countP_append, hfind, hcount]

/-- The row of an account only depends on the slots of that account. -/
lemma rowOf_filter : rowOf (entries.filter fun e => e.1 = o) o = rowOf entries o := by
  simp [rowOf, List.find?_filter, List.countP_filter]

/-! ## What a tally holds -/

namespace Tally

/-- The tally of some slots, counted from first to last. -/
def ofEntries (entries : List (OwnerId × String)) : Tally :=
  entries.foldl (fun t e => t.add e.1 e.2) empty

/-- The rows are those of the accounts met, and the positions tell where they are. -/
structure Counts (t : Tally) (entries : List (OwnerId × String)) : Prop where
  rows : t.rows.toList = (owners entries).map (rowOf entries)
  positions : ∀ (o : OwnerId) (p : Nat), t.positions[o]? = some p ↔ (owners entries)[p]? = some o

variable {t : Tally}

namespace Counts

variable (h : t.Counts entries)

include h

/-- An account has a position exactly when it was met. -/
lemma mem_owners_of_position {p : Nat} (hp : t.positions[owner]? = some p) :
    owner ∈ owners entries :=
  List.mem_of_getElem? ((h.positions owner p).1 hp)

/-- An account without a position has no entry. -/
lemma notMem_owners_of_position (hp : t.positions[owner]? = none) : owner ∉ owners entries := by
  intro hmem
  obtain ⟨p, hat⟩ := List.getElem?_of_mem hmem
  rw [(h.positions owner p).2 hat] at hp
  cases hp

/-- There is one row for every owner. -/
lemma size_rows : t.rows.size = (owners entries).length := by
  rw [← Array.length_toList, h.rows, List.length_map]

/-- The position of an account is that of its row. -/
lemma row_of_position {p : Nat} (hp : t.positions[owner]? = some p) :
    ∃ row, t.rows[p]? = some row ∧ row.owner = owner := by
  refine ⟨rowOf entries owner, ?_, rfl⟩
  rw [← Array.getElem?_toList, h.rows, List.getElem?_map, (h.positions owner p).1 hp]
  rfl

/-- Counting one more slot of an account that was met before: the row at its position is the only
one of the account, and one is added to its count. -/
lemma add_known (name : String) {p : Nat} (hp : t.positions[owner]? = some p) :
    (t.add owner name).Counts (entries ++ [(owner, name)]) := by
  have hat : (owners entries)[p]? = some owner := (h.positions owner p).1 hp
  have hmem : owner ∈ owners entries := h.mem_owners_of_position hp
  have howners : owners (entries ++ [(owner, name)]) = owners entries := by
    rw [owners_concat, if_pos hmem]
  simp only [Tally.add, hp]
  refine ⟨?_, fun o q => by rw [howners]; exact h.positions o q⟩
  rw [Array.toList_modify, h.rows, howners]
  refine List.ext_getElem? fun q => ?_
  rw [List.getElem?_modify, List.getElem?_map, List.getElem?_map]
  cases hq : (owners entries)[q]? with
  | none => rfl
  | some o =>
    by_cases hpq : p = q
    · subst hpq
      obtain rfl : owner = o := Option.some.inj (hat.symm.trans hq)
      simp [rowOf_concat_self hmem]
    · have hne : o ≠ owner := by
        rintro rfl
        have hlt := (List.getElem?_eq_some_iff.1 hq).1
        exact hpq ((List.getElem?_inj hlt (nodup_owners entries)).1 (hq.trans hat.symm)).symm
      simp [rowOf_concat_of_ne hne, hpq]

/-- The positions after a new account is counted: it comes last. -/
lemma positions_insert (hnew : owner ∉ owners entries) (o : OwnerId) (q : Nat) :
    (t.positions.insert owner t.rows.size)[o]? = some q ↔
      (owners entries ++ [owner])[q]? = some o := by
  by_cases ho : owner = o
  · subst ho
    rw [Std.TreeMap.getElem?_insert_self, Option.some.injEq, h.size_rows]
    refine ⟨?_, fun hat => ?_⟩
    · rintro rfl
      exact List.getElem?_concat_length
    · have hlt := (List.getElem?_eq_some_iff.1 hat).1
      rw [List.length_append, List.length_singleton] at hlt
      by_contra hq
      rw [List.getElem?_append_left (by omega)] at hat
      exact hnew (List.mem_of_getElem? hat)
  · have hother : (t.positions.insert owner t.rows.size)[o]? = t.positions[o]? := by
      simp [Std.TreeMap.getElem?_insert, ho]
    rw [hother, h.positions, List.getElem?_append]
    split_ifs with hlt
    · exact Iff.rfl
    · rw [List.getElem?_eq_none (Nat.not_lt.1 hlt), List.getElem?_singleton]
      simp [ho]

/-- Counting the first slot of an account: its row comes last. -/
lemma add_new (name : String) (hp : t.positions[owner]? = none) :
    (t.add owner name).Counts (entries ++ [(owner, name)]) := by
  have hnew : owner ∉ owners entries := h.notMem_owners_of_position hp
  have howners : owners (entries ++ [(owner, name)]) = owners entries ++ [owner] := by
    rw [owners_concat, if_neg hnew]
  have hrows : (owners entries).map (rowOf (entries ++ [(owner, name)])) =
      (owners entries).map (rowOf entries) :=
    List.map_congr_left fun o ho => rowOf_concat_of_ne (ne_of_mem_of_not_mem ho hnew)
  simp only [Tally.add, hp]
  refine ⟨?_, fun o q => ?_⟩
  · rw [Array.toList_push, h.rows, howners, List.map_append, List.map_singleton, hrows,
      rowOf_concat_new hnew]
  · rw [howners]
    exact h.positions_insert hnew o q

/-- Counting one more slot. -/
lemma add (owner : OwnerId) (name : String) :
    (t.add owner name).Counts (entries ++ [(owner, name)]) := by
  cases hp : t.positions[owner]? with
  | some p => exact h.add_known name hp
  | none => exact h.add_new name hp

end Counts

/-- **A tally holds what was counted**: one row for each account met, in the order in which they
were met first, with the name of its first slot and the number of its slots. -/
theorem counts_ofEntries (entries : List (OwnerId × String)) :
    (ofEntries entries).Counts entries := by
  induction entries using List.reverseRecOn with
  | nil => exact ⟨rfl, fun o p => by simp [ofEntries, empty, owners]⟩
  | append_singleton entries e ih =>
    rw [ofEntries, List.foldl_append]
    exact ih.add e.1 e.2

/-! ## The ranking -/

/-- The ranking rearranges the rows. -/
lemma finish_perm (t : Tally) : (t.finish none).Perm t.rows.toList := List.mergeSort_perm _ _

/-- **The row of an account in the ranking**: an account of which slots were counted has one row,
and one of which none were has none. -/
theorem filter_finish (entries : List (OwnerId × String)) (o : OwnerId) :
    ((ofEntries entries).finish none).filter (fun row => row.owner = o) =
      if o ∈ owners entries then [rowOf entries o] else [] := by
  have hrows : (ofEntries entries).rows.toList.filter (fun row => row.owner = o) =
      if o ∈ owners entries then [rowOf entries o] else [] := by
    have hsame : ((fun row : Row => decide (row.owner = o)) ∘ rowOf entries) =
        fun p => decide (p = o) := rfl
    rw [(counts_ofEntries entries).rows, List.filter_map, hsame, List.filter_eq]
    split_ifs with hmem
    · rw [List.count_eq_one_of_mem (nodup_owners entries) hmem]
      rfl
    · rw [List.count_eq_zero_of_not_mem hmem]
      rfl
  have hperm := (finish_perm (ofEntries entries)).filter fun row => row.owner = o
  rw [hrows] at hperm
  split_ifs at hperm ⊢
  · exact List.perm_singleton.1 hperm
  · exact List.perm_nil.1 hperm

/-- Two rankings agree on an account when the same slots of it were counted in the same order. -/
lemma filter_finish_congr
    (h : (entries.filter fun e => e.1 = o) = entries'.filter fun e => e.1 = o) :
    ((ofEntries entries).finish none).filter (fun row => row.owner = o) =
      ((ofEntries entries').finish none).filter fun row => row.owner = o := by
  have hmem : ∀ es : List (OwnerId × String),
      o ∈ owners es ↔ (es.filter fun e => e.1 = o) ≠ [] := by
    intro es
    rw [mem_owners, ne_eq, List.filter_eq_nil_iff]
    simp
  rw [filter_finish, filter_finish, ← rowOf_filter, h, rowOf_filter]
  simp only [hmem, h]

end Tally

end Ranking

end InFlight
