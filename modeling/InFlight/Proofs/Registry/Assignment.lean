import InFlight.Proofs.Registry.Deduplication
import InFlight.Proofs.Registry.Recency

/-!
# Chains in order of assignment

A slot is assigned to an account when it is made for the account or taken over from another one.
Number the calls of a run from one and give every slot of an account the number of the last call
that assigned it to that account.  The chain of the account lists its slots in ascending order of
these numbers, over the whole run.  A call that assigns no slot leaves the chains of all accounts as
they are; one that does appends a slot to one chain and takes it out of at most one other.

## Main definitions

* `InFlight.Outcome.assigned?` — the slot that a call assigns to its account.
* `InFlight.lastAssigned` — the number of the last call that assigned a slot to an account.
* `InFlight.Roster.Assigned` — the list of every account ascends in these numbers.

## Main results

* `InFlight.Roster.slotsOf_record_of_none`, `InFlight.Roster.Valid.slotsOf_record_of_some` — the
  lists of all accounts after a call.
* `InFlight.Roster.Assigned.record`, `InFlight.Roster.Assigned.run` — the order is kept by a call
  and by a run.
* `InFlight.Registry.assignment_run` — the order, and what each outcome does to it, after every run.
-/

set_option relaxedAutoImplicit false
set_option autoImplicit false

namespace InFlight

/-! ## Assignments -/

/-- The slot that a call of an account assigns to it: a new one, or one that was owned by another
account. -/
def Outcome.assigned? (owner : OwnerId) : Outcome → Option Nat
  | .continued _ => none
  | .replacedOwnOldest _ => none
  | .evictedLru slot previous => if previous = owner then none else some slot
  | .allocated slot => some slot

/-- The calls of a run with their outcomes. -/
abbrev History := List (Call × Outcome)

/-- The number of the last call of a history that assigned slot `i` to an account, the calls counted
from one; zero if none of them did. -/
def lastAssigned (owner : OwnerId) (history : History) (i : Nat) : Nat :=
  lastNumber (fun x => x.1.owner = owner ∧ x.2.assigned? owner = some i) history

section LastAssigned

variable {owner : OwnerId} {history : History} {i : Nat}

/-- A call of another account assigns nothing to this one. -/
lemma lastAssigned_concat_of_ne {x : Call × Outcome} (h : x.1.owner ≠ owner) :
    lastAssigned owner (history ++ [x]) i = lastAssigned owner history i := by
  rw [lastAssigned, lastNumber_concat, if_neg fun hx => h hx.1]
  rfl

/-- A call that assigns another slot, or none, does not assign this one. -/
lemma lastAssigned_concat_of_assigned_ne {x : Call × Outcome} (h : x.2.assigned? owner ≠ some i) :
    lastAssigned owner (history ++ [x]) i = lastAssigned owner history i := by
  rw [lastAssigned, lastNumber_concat, if_neg fun hx => h hx.2]
  rfl

/-- A call that assigns a slot is the last one to do so. -/
lemma lastAssigned_concat_self {x : Call × Outcome} (h : x.1.owner = owner)
    (hi : x.2.assigned? owner = some i) :
    lastAssigned owner (history ++ [x]) i = history.length + 1 := by
  rw [lastAssigned, lastNumber_concat, if_pos ⟨h, hi⟩]

/-- No slot was assigned by a call that is still to come. -/
lemma lastAssigned_le (owner : OwnerId) (history : History) (i : Nat) :
    lastAssigned owner history i ≤ history.length := lastNumber_le _ history

end LastAssigned

namespace Roster

variable {r : Roster} {owner o : OwnerId} {fp : Fingerprint} {i : Nat} {history : History}

/-! ## The lists after a call -/

/-- A call that assigns no slot leaves the lists of all accounts as they are. -/
lemma slotsOf_record_of_none (r : Roster) (c : Call)
    (hnone : (r.record c.owner c.name c.payload c.now).2.assigned? c.owner = none) (o : OwnerId) :
    (r.record c.owner c.name c.payload c.now).1.slotsOf o = r.slotsOf o := by
  simp only [Roster.record, recordFingerprint] at hnone ⊢
  generalize r.choose c.owner (Fingerprint.compute c.payload) = outcome at hnone ⊢
  cases outcome with
  | continued i => rfl
  | replacedOwnOldest i => rfl
  | evictedLru i previous =>
    have hsame : previous = c.owner := by
      by_contra hne
      simp [Outcome.assigned?, hne] at hnone
    rw [apply, if_pos hsame, slotsOf_track]
  | allocated i => simp [Outcome.assigned?] at hnone

/-- A call that assigns a slot evicts that of another account, or allocates it. -/
lemma Valid.assigned_cases (h : r.Valid) (c : Call)
    (hsome : (r.record c.owner c.name c.payload c.now).2.assigned? c.owner = some i) :
    (r.choose c.owner (Fingerprint.compute c.payload) = .evictedLru i (r.ownerAt i) ∧
        r.ownerAt i ≠ c.owner) ∨
      (r.choose c.owner (Fingerprint.compute c.payload) = .allocated i ∧ i = r.tasks.length) := by
  have hc := h.chooses_choose c.owner (Fingerprint.compute c.payload)
  simp only [Roster.record, recordFingerprint] at hsome
  generalize r.choose c.owner (Fingerprint.compute c.payload) = outcome at hc hsome ⊢
  cases hc with
  | continued => simp [Outcome.assigned?] at hsome
  | replacedOwnOldest => simp [Outcome.assigned?] at hsome
  | @evictedLru j _ _ _ _ =>
    by_cases hown : r.ownerAt j = c.owner
    · simp [Outcome.assigned?, hown] at hsome
    · rw [Outcome.assigned?, if_neg hown, Option.some.injEq] at hsome
      subst hsome
      exact .inl ⟨rfl, hown⟩
  | allocated =>
    rw [Outcome.assigned?, Option.some.injEq] at hsome
    subst hsome
    exact .inr ⟨rfl, rfl⟩

/-- The slot that a call assigns was not owned by the account. -/
lemma Valid.notMem_of_assigned (h : r.Valid) (c : Call)
    (hsome : (r.record c.owner c.name c.payload c.now).2.assigned? c.owner = some i) :
    i ∉ r.slotsOf c.owner := by
  obtain ⟨-, hown⟩ | ⟨-, rfl⟩ := h.assigned_cases c hsome
  · exact fun hmem => hown (h.ownerAt_eq hmem)
  · exact h.length_notMem_slotsOf

/-- A call that assigns a slot puts it last in the list of its account, and takes it out of the list
of any other account. -/
lemma Valid.slotsOf_record_of_some (h : r.Valid) (c : Call)
    (hsome : (r.record c.owner c.name c.payload c.now).2.assigned? c.owner = some i)
    (o : OwnerId) :
    (r.record c.owner c.name c.payload c.now).1.slotsOf o =
      if o = c.owner then r.slotsOf o ++ [i] else (r.slotsOf o).erase i := by
  have hcases := h.assigned_cases c hsome
  simp only [Roster.record, recordFingerprint]
  obtain ⟨hchoose, hown⟩ | ⟨hchoose, rfl⟩ := hcases
  · rw [hchoose, apply, if_neg hown, slotsOf_takeOver hown]
    refine if_congr Iff.rfl rfl ?_
    split_ifs with ho
    · rfl
    · -- the slot is in no list but that of its owner
      rw [List.erase_of_not_mem fun hmem => ho (h.ownerAt_eq hmem).symm]
  · rw [hchoose, apply, slotsOf_allocate, List.erase_of_not_mem h.length_notMem_slotsOf]

/-- A slot that is evicted belongs to the account that it is taken from. -/
lemma Valid.mem_slotsOf_of_evictedLru (h : r.Valid) {previous : OwnerId}
    (hi : r.choose owner fp = .evictedLru i previous) : i ∈ r.slotsOf previous := by
  have hc := h.chooses_choose owner fp
  rw [hi] at hc
  cases hc with
  | evictedLru _ _ _ hleast =>
    exact h.mem_slotsOf_ownerAt (h.mem_recency.1 (List.mem_of_head? hleast))

/-- What is known of a slot that is allocated. -/
lemma Valid.of_allocated (h : r.Valid) (hi : r.choose owner fp = .allocated i) :
    i = r.tasks.length ∧ r.tasks.length < r.limits.globalSlots := by
  have hc := h.chooses_choose owner fp
  rw [hi] at hc
  cases hc with
  | allocated _ _ hspace => exact ⟨rfl, hspace⟩

/-! ## The order of assignments -/

/-- Every slot of an account was assigned to it by one of the calls, and its list ascends in the
numbers of the calls that did so last. -/
structure Assigned (r : Roster) (history : History) : Prop where
  assigned : ∀ o, ∀ i ∈ r.slotsOf o, 0 < lastAssigned o history i
  ascending : ∀ o, ((r.slotsOf o).map (lastAssigned o history)).Pairwise (· < ·)

namespace Assigned

/-- Before any call no slot is assigned. -/
lemma empty (limits : Limits) : (Roster.empty limits).Assigned [] where
  assigned := by simp
  ascending := by simp

/-- A list that loses slots is still in order, if none of its slots is assigned anew. -/
lemma pairwise_of_sublist (h : r.Assigned history) {slots : List Nat} {x : Call × Outcome}
    (hsub : slots.Sublist (r.slotsOf o))
    (hsame : ∀ i ∈ slots, lastAssigned o (history ++ [x]) i = lastAssigned o history i) :
    (slots.map (lastAssigned o (history ++ [x]))).Pairwise (· < ·) := by
  rw [List.map_congr_left hsame]
  exact (h.ascending o).sublist (hsub.map _)

/-- A call keeps the order: a slot that it assigns comes last in the list of the account, and its
number is higher than those before. -/
lemma record (h : r.Assigned history) (hv : r.Valid) (c : Call) :
    (r.record c.owner c.name c.payload c.now).1.Assigned
      (history ++ [(c, (r.record c.owner c.name c.payload c.now).2)]) := by
  set outcome := (r.record c.owner c.name c.payload c.now).2 with houtcome
  set r' := (r.record c.owner c.name c.payload c.now).1
  cases hassigned : outcome.assigned? c.owner with
  | none =>
    have hslots : ∀ o, r'.slotsOf o = r.slotsOf o := r.slotsOf_record_of_none c hassigned
    have hsame : ∀ o i, lastAssigned o (history ++ [(c, outcome)]) i =
        lastAssigned o history i := by
      intro o i
      by_cases ho : c.owner = o
      · subst ho
        exact lastAssigned_concat_of_assigned_ne (by simp [hassigned])
      · exact lastAssigned_concat_of_ne ho
    constructor
    · intro o i hi
      rw [hslots] at hi
      rw [hsame]
      exact h.assigned o i hi
    · intro o
      rw [hslots]
      exact h.pairwise_of_sublist (List.Sublist.refl _) fun i _ => hsame o i
  | some j =>
    have hslots : ∀ o, r'.slotsOf o =
        if o = c.owner then r.slotsOf o ++ [j] else (r.slotsOf o).erase j :=
      hv.slotsOf_record_of_some c hassigned
    have hnotMem : j ∉ r.slotsOf c.owner := hv.notMem_of_assigned c hassigned
    have hself : lastAssigned c.owner (history ++ [(c, outcome)]) j = history.length + 1 :=
      lastAssigned_concat_self rfl hassigned
    have hother : ∀ i ∈ r.slotsOf c.owner, lastAssigned c.owner (history ++ [(c, outcome)]) i =
        lastAssigned c.owner history i := by
      intro i hi
      refine lastAssigned_concat_of_assigned_ne fun hsome => ?_
      rw [hassigned, Option.some.injEq] at hsome
      exact hnotMem (hsome ▸ hi)
    constructor
    · intro o i hi
      rw [hslots] at hi
      by_cases ho : o = c.owner
      · subst ho
        rw [if_pos rfl, List.mem_append, List.mem_singleton] at hi
        rcases hi with hi | rfl
        · rw [hother i hi]
          exact h.assigned c.owner i hi
        · omega
      · rw [if_neg ho] at hi
        rw [lastAssigned_concat_of_ne (Ne.symm ho)]
        exact h.assigned o i (List.mem_of_mem_erase hi)
    · intro o
      rw [hslots]
      by_cases ho : o = c.owner
      · subst ho
        rw [if_pos rfl, List.map_append, List.pairwise_append]
        refine ⟨h.pairwise_of_sublist (List.Sublist.refl _) hother, by simp, ?_⟩
        intro s hs t ht
        obtain ⟨i, hi, rfl⟩ := List.mem_map.1 hs
        rw [List.map_singleton, List.mem_singleton] at ht
        have hle := lastAssigned_le c.owner history i
        rw [ht, hself, hother i hi]
        omega
      · rw [if_neg ho]
        exact h.pairwise_of_sublist List.erase_sublist
          fun i _ => lastAssigned_concat_of_ne (Ne.symm ho)

/-- Every run keeps the order. -/
lemma run (h : r.Assigned history) (hv : r.Valid) (calls : List Call) :
    (r.run calls).1.Assigned (history ++ calls.zip (r.run calls).2) := by
  induction calls generalizing r history with
  | nil => simpa [Roster.run] using h
  | cons c calls ih =>
    have hrun := ih (h.record hv c) (hv.record c)
    rwa [List.append_assoc] at hrun

end Assigned

/-- The order after every run from an empty roster. -/
lemma assigned_run (limits : Limits) (calls : List Call) :
    ((empty limits).run calls).1.Assigned (calls.zip ((empty limits).run calls).2) :=
  (Assigned.empty limits).run (valid_empty limits) calls

/-- An account has both slots, one for each of two payloads. -/
lemma slotsOf_run_two_payloads {f g : ByteArray}
    (hfg : (Fingerprint.compute f).continues (Fingerprint.compute g) = false) (o : OwnerId) :
    ((empty ⟨2, 2⟩).run [⟨1, "a", f, 1⟩, ⟨1, "a", g, 2⟩]).1.slotsOf o =
      if o = 1 then [0, 1] else [] := by
  by_cases ho : o = 1 <;>
    simp [run, Roster.record, recordFingerprint, choose, matching?, ownVictim?, victim?, apply,
      allocate, assign, continuedBy, slotsOf, empty, Limits.clamped, hfg, ho]

/-- Then the account continues the first of them, or another account takes it over. -/
lemma record_after_two_payloads {f g : ByteArray}
    (hfg : (Fingerprint.compute f).continues (Fingerprint.compute g) = false) :
    let r := ((empty ⟨2, 2⟩).run [⟨1, "a", f, 1⟩, ⟨1, "a", g, 2⟩]).1
    (r.record 1 "a" f 3).2 = .continued 0 ∧ (r.record 2 "b" f 3).2 = .evictedLru 0 1 := by
  simp [run, Roster.record, recordFingerprint, choose, matching?, ownVictim?, victim?, apply,
    allocate, assign, continuedBy, slotsOf, ownerAt, empty, Limits.clamped, hfg,
    Fingerprint.continues_self]

end Roster

namespace Registry

/-! ## Every run -/

/-- **The chain of every account is in order of assignment**, after every run and whatever the
limits: each of its slots was assigned to the account by one of the calls, and it lists them in
ascending order of the calls that did so last.  A further call that continues a slot, overwrites
one of the account's own or evicts one that the account owns already leaves the chains of all
accounts as they are.  If it evicts a slot of another account, that slot leaves the chain of its
owner, in which the others keep their order, and comes last in the chain of the new owner; if it
allocates a slot, this one comes last; and no other chain changes.

**Proof sketch.** The order is kept by every call (`Roster.Assigned.run`).  Which chains a call
changes is `Roster.slotsOf_record_of_none` and `Roster.Valid.slotsOf_record_of_some`. -/
theorem assignment_run (limits : Limits) (calls : List Call) :
    let r := ((empty limits).run calls).1
    let history := calls.zip ((empty limits).run calls).2
    (∀ o, (∀ i ∈ r.slotsOf o, 0 < lastAssigned o history i) ∧
        ((r.slotsOf o).map (lastAssigned o history)).Pairwise (· < ·)) ∧
      ∀ c : Call,
        let next := r.record c.owner c.name c.payload c.now
        (∀ i, next.2 = .continued i ∨ next.2 = .replacedOwnOldest i ∨
            next.2 = .evictedLru i c.owner → ∀ o, next.1.slotsOf o = r.slotsOf o) ∧
          (∀ i previous, next.2 = .evictedLru i previous → previous ≠ c.owner →
            i ∈ r.slotsOf previous ∧ next.1.slotsOf previous = (r.slotsOf previous).erase i ∧
              next.1.slotsOf c.owner = r.slotsOf c.owner ++ [i] ∧
              ∀ o, o ≠ previous → o ≠ c.owner → next.1.slotsOf o = r.slotsOf o) ∧
          ∀ i, next.2 = .allocated i → next.1.slotsOf c.owner = r.slotsOf c.owner ++ [i] ∧
            ∀ o, o ≠ c.owner → next.1.slotsOf o = r.slotsOf o := by
  intro r history
  obtain ⟨hspells, houtcomes⟩ := (spells_empty limits).run (Roster.valid_empty limits) calls
  have hv := Roster.valid_run limits calls
  have hassigned := Roster.assigned_run limits calls
  rw [← houtcomes] at hassigned
  refine ⟨fun o => ?_, fun c => ?_⟩
  · rw [hspells.slotsOf_eq]
    exact ⟨hassigned.assigned o, hassigned.ascending o⟩
  intro next
  obtain ⟨hspells', houtcome⟩ :=
    hspells.recordFingerprint hv c.owner c.name (Fingerprint.compute c.payload) c.now
  have hnext : ∀ o, next.1.slotsOf o = _ := hspells'.slotsOf_eq
  have hsame : next.2.assigned? c.owner = none → ∀ o, next.1.slotsOf o = r.slotsOf o := by
    intro hnone o
    rw [hnext, hspells.slotsOf_eq]
    exact Roster.slotsOf_record_of_none _ c (houtcome ▸ hnone) o
  have hmoved : ∀ i, next.2.assigned? c.owner = some i → ∀ o, next.1.slotsOf o =
      if o = c.owner then r.slotsOf o ++ [i] else (r.slotsOf o).erase i := by
    intro i hsome o
    rw [hnext, hspells.slotsOf_eq]
    exact hv.slotsOf_record_of_some c (houtcome ▸ hsome) o
  refine ⟨fun i hkept => hsame ?_, fun i previous hevicted hne => ?_, fun i hallocated => ?_⟩
  · rcases hkept with h | h | h <;> simp [h, Outcome.assigned?]
  · have hslots := hmoved i (by rw [hevicted, Outcome.assigned?, if_neg hne])
    have hmem : i ∈ ((Roster.empty limits).run calls).1.slotsOf previous :=
      hv.mem_slotsOf_of_evictedLru (houtcome.symm.trans hevicted)
    refine ⟨?_, ?_, ?_, fun o hprevious ho => ?_⟩
    · rwa [hspells.slotsOf_eq]
    · rw [hslots, if_neg hne]
    · rw [hslots, if_pos rfl]
    · rw [hslots, if_neg ho, List.erase_of_not_mem]
      rw [hspells.slotsOf_eq]
      exact fun hmem' => hprevious (hv.owner_unique hmem' hmem)
  · have hslots := hmoved i (by rw [hallocated, Outcome.assigned?])
    have hnew : i = ((Roster.empty limits).run calls).1.tasks.length :=
      (hv.of_allocated (houtcome.symm.trans hallocated)).1
    refine ⟨by rw [hslots, if_pos rfl], fun o ho => ?_⟩
    rw [hslots, if_neg ho, List.erase_of_not_mem]
    rw [hspells.slotsOf_eq, hnew]
    exact hv.length_notMem_slotsOf

/-- An account has been assigned both slots.  It continues the first of them, which changes no
chain, or another account takes that slot over. -/
theorem assignment_two_payloads :
    let calls : List Call := [⟨1, "a", letters 8, 1⟩, ⟨1, "a", letters 512, 2⟩]
    let r := ((empty ⟨2, 2⟩).run calls).1
    let same := r.record 1 "a" (letters 8) 3
    let next := r.record 2 "b" (letters 8) 3
    0 < lastAssigned 1 (calls.zip ((empty ⟨2, 2⟩).run calls).2) 1 ∧
      same.2 = .continued 0 ∧ same.1.slotsOf 1 = [0, 1] ∧
      next.2 = .evictedLru 0 1 ∧ (1 : OwnerId) ≠ 2 ∧
      next.1.slotsOf 1 = [1] ∧ next.1.slotsOf 2 = [0] ∧ next.1.slotsOf 3 = [] := by
  intro calls r same next
  have hspells := spells_run ⟨2, 2⟩ calls
  have hslots : ∀ o, r.slotsOf o = if o = 1 then [0, 1] else [] := fun o =>
    (hspells.slotsOf_eq o).trans (Roster.slotsOf_run_two_payloads not_continues_letters o)
  have houtcome := fun owner name => (hspells.recordFingerprint (Roster.valid_run ⟨2, 2⟩ calls)
    owner name (Fingerprint.compute (letters 8)) 3).2
  obtain ⟨hcontinued, hevicted⟩ := Roster.record_after_two_payloads not_continues_letters
  have hsame : same.2 = .continued 0 := (houtcome 1 "a").trans hcontinued
  have hnext : next.2 = .evictedLru 0 1 := (houtcome 2 "b").trans hevicted
  obtain ⟨horder, hcalls⟩ := assignment_run ⟨2, 2⟩ calls
  have hkept := (hcalls ⟨1, "a", letters 8, 3⟩).1 0 (.inl hsame)
  obtain ⟨-, hleft, hjoined, hothers⟩ :=
    (hcalls ⟨2, "b", letters 8, 3⟩).2.1 0 1 hnext (by decide)
  refine ⟨(horder 1).1 1 ?_, hsame, (hkept 1).trans (hslots 1), hnext, by decide, hleft.trans ?_,
    hjoined.trans ?_, (hothers 3 (by decide) (by decide)).trans (hslots 3)⟩
  · rw [hslots]
    decide
  · rw [hslots]
    rfl
  · rw [hslots]
    rfl

end Registry

end InFlight
