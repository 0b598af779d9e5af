import Mathlib.Data.List.TakeWhile
import InFlight.Proofs.Ranking.Tally

/-!
# The order of a ranking

A ranking sorts the rows of a tally by descending count.  Sorting keeps the order of rows with equal
counts, and a tally has its rows in the order in which the accounts were met, so among equal
counts the account met first comes first.  Rows that reach a threshold are the beginning of the
ranking.

## Main definitions

* `InFlight.Ranking.Outranks` — one row stands before another, given the places of the accounts.

## Main results

* `InFlight.Ranking.pairwise_findIdx_owners` — the accounts of a tally in the order of their first
  slots.
* `InFlight.Ranking.Tally.filter_finish_activeSlots` — sorting keeps rows with equal counts in
  order.
* `InFlight.Ranking.Tally.pairwise_finish` — in a ranking every row outranks the rows behind it.
* `InFlight.Ranking.atLeast_eq_takeWhile` — the rows that reach a threshold.
-/

set_option relaxedAutoImplicit false
set_option autoImplicit false

namespace InFlight

namespace Ranking

/-- Row `a` stands before row `b`: its count is higher, or it is as high and the account of `a` has
the earlier place. -/
def Outranks (place : OwnerId → Nat) (a b : Row) : Prop :=
  b.activeSlots < a.activeSlots ∨
    b.activeSlots = a.activeSlots ∧ place a.owner < place b.owner

variable {place : OwnerId → Nat} {rows : List Row}

/-- Of two rows at most one outranks the other. -/
lemma Outranks.asymm {a b : Row} (h : Outranks place a b) : ¬ Outranks place b a := by
  unfold Outranks at *
  omega

/-! ## The order of a tally -/

/-- The accounts of some slots stand in the order of their first slots.

**Proof sketch.** One more slot moves no first slot that was there before, and a new account has its
first slot behind all of them. -/
lemma pairwise_findIdx_owners (entries : List (OwnerId × String)) :
    (owners entries).Pairwise fun o o' =>
      (entries.findIdx fun e => e.1 = o) < entries.findIdx fun e => e.1 = o' := by
  induction entries using List.reverseRecOn with
  | nil => exact List.Pairwise.nil
  | append_singleton entries e ih =>
    obtain ⟨owner, name⟩ := e
    have hold : ∀ o ∈ owners entries,
        ((entries ++ [(owner, name)]).findIdx fun e => e.1 = o) =
            (entries.findIdx fun e => e.1 = o) ∧
          (entries.findIdx fun e => e.1 = o) < entries.length := by
      intro o ho
      obtain ⟨e, he, howner⟩ := mem_owners.1 ho
      have hlt : (entries.findIdx fun e => e.1 = o) < entries.length :=
        List.findIdx_lt_length_of_exists ⟨e, he, by simpa using howner⟩
      exact ⟨by rw [List.findIdx_append, if_pos hlt], hlt⟩
    have hkept : (owners entries).Pairwise fun o o' =>
        ((entries ++ [(owner, name)]).findIdx fun e => e.1 = o) <
          (entries ++ [(owner, name)]).findIdx fun e => e.1 = o' :=
      ih.imp_of_mem fun ho ho' hlt => by rwa [(hold _ ho).1, (hold _ ho').1]
    rw [owners_concat]
    split_ifs with hmem
    · exact hkept
    · refine List.pairwise_append.2 ⟨hkept, List.pairwise_singleton _ _, fun o ho o' ho' => ?_⟩
      rw [List.mem_singleton.1 ho', (hold o ho).1, List.findIdx_append, if_neg]
      · have hlt := (hold o ho).2
        omega
      · rw [List.findIdx_lt_length]
        simpa [mem_owners] using hmem

/-! ## The order of a ranking -/

namespace Tally

/-- The order by descending counts is transitive. -/
lemma descending_trans (a b c : Row) (hab : decide (b.activeSlots ≤ a.activeSlots) = true)
    (hbc : decide (c.activeSlots ≤ b.activeSlots) = true) :
    decide (c.activeSlots ≤ a.activeSlots) = true :=
  decide_eq_true ((of_decide_eq_true hbc).trans (of_decide_eq_true hab))

/-- Of two rows one has no more active slots than the other. -/
lemma descending_total (a b : Row) :
    (decide (b.activeSlots ≤ a.activeSlots) || decide (a.activeSlots ≤ b.activeSlots)) = true := by
  simp only [Bool.or_eq_true, decide_eq_true_eq]
  omega

/-- The counts descend along a ranking. -/
lemma pairwise_finish_le (t : Tally) :
    (t.finish none).Pairwise fun a b => b.activeSlots ≤ a.activeSlots :=
  (List.pairwise_mergeSort descending_trans descending_total t.rows.toList).imp of_decide_eq_true

/-- Rows with equal counts have the order in the ranking that they have in the tally.

**Proof sketch.** In the tally they are a sublist that is sorted already, and sorting keeps it as a
sublist; the ranking has no further rows with that count. -/
lemma filter_finish_activeSlots (t : Tally) (k : Nat) :
    (t.finish none).filter (fun row => row.activeSlots = k) =
      t.rows.toList.filter fun row => row.activeSlots = k := by
  have hequal : (t.rows.toList.filter fun row => row.activeSlots = k).Pairwise
      fun a b => decide (b.activeSlots ≤ a.activeSlots) = true := by
    refine List.pairwise_of_forall_mem_list fun a ha b hb => ?_
    have hak := of_decide_eq_true (List.mem_filter.1 ha).2
    have hbk := of_decide_eq_true (List.mem_filter.1 hb).2
    exact decide_eq_true (hbk.trans hak.symm).le
  have hsub : (t.rows.toList.filter fun row => row.activeSlots = k).Sublist (t.finish none) :=
    List.sublist_mergeSort descending_trans descending_total hequal List.filter_sublist
  have hfiltered := hsub.filter fun row => row.activeSlots = k
  rw [List.filter_filter] at hfiltered
  simp only [Bool.and_self] at hfiltered
  exact (hfiltered.eq_of_length ((finish_perm t).filter _).length_eq.symm).symm

/-- **The order of a ranking**: if the accounts of a tally stand in the order of their places, every
row of the ranking outranks the rows behind it.

**Proof sketch.** Of two rows in the ranking the first has no lower count.  If the counts are equal,
the two rows stand in the tally in the same order. -/
theorem pairwise_finish (t : Tally)
    (h : t.rows.toList.Pairwise fun a b => place a.owner < place b.owner) :
    (t.finish none).Pairwise (Outranks place) := by
  rw [List.pairwise_iff_forall_sublist]
  intro a b hab
  have hle : b.activeSlots ≤ a.activeSlots :=
    List.pairwise_iff_forall_sublist.1 t.pairwise_finish_le hab
  rcases Nat.lt_or_eq_of_le hle with hlt | heq
  · exact Or.inl hlt
  · refine Or.inr ⟨heq, ?_⟩
    have hpair := hab.filter fun row => row.activeSlots = a.activeSlots
    have hboth : [a, b].filter (fun row => row.activeSlots = a.activeSlots) = [a, b] := by
      simp [heq]
    rw [filter_finish_activeSlots, hboth] at hpair
    exact List.pairwise_iff_forall_sublist.1 h (hpair.trans List.filter_sublist)

end Tally

/-! ## Thresholds -/

/-- The rows that reach a threshold, if the counts descend: all rows up to the first that does not
reach it. -/
lemma atLeast_eq_takeWhile (threshold : Nat)
    (h : rows.Pairwise fun a b => b.activeSlots ≤ a.activeSlots) :
    atLeast threshold rows = rows.takeWhile fun row => threshold ≤ row.activeSlots := by
  unfold atLeast
  induction rows with
  | nil => rfl
  | cons row rows ih =>
    obtain ⟨hfirst, hrest⟩ := List.pairwise_cons.1 h
    by_cases hrow : threshold ≤ row.activeSlots
    · rw [List.filter_cons_of_pos (by simpa using hrow),
        List.takeWhile_cons_of_pos (by simpa using hrow), ih hrest]
    · rw [List.filter_cons_of_neg (by simpa using hrow),
        List.takeWhile_cons_of_neg (by simpa using hrow), List.filter_eq_nil_iff]
      intro row' hmem
      have hle := hfirst row' hmem
      simp only [decide_eq_true_eq]
      omega

end Ranking

end InFlight
