import InFlight.Proofs.Registry.Assignment
import InFlight.Proofs.Registry.Isolation

/-!
# Slots accounted for by outcomes

No slot is lost or counted twice.  New slots are numbered without a gap, and once a slot has been
evicted there are no more new ones.  What an account owns is what it was allocated and what it took
over from others, less what others took over from it.

## Main definitions

* `InFlight.Outcome.allocated?`, `InFlight.Outcome.previous?` — the slot that an outcome allocated,
  and the account whose slot it evicted.
* `InFlight.allocations`, `InFlight.takeovers`, `InFlight.losses` — calls of a history, counted for
  an account.
* `InFlight.Roster.Accounted` — the slots of a roster are those that a history accounts for.

## Main results

* `InFlight.Roster.Valid.length_slotsOf_record` — one call, for every account.
* `InFlight.Roster.Accounted.record`, `InFlight.Roster.Accounted.run` — a call and a run.
* `InFlight.Registry.accounts_run` — the accounts of every run.
-/

set_option relaxedAutoImplicit false
set_option autoImplicit false

namespace InFlight

/-! ## What outcomes say -/

namespace Outcome

/-- The slot of an outcome that allocated one. -/
def allocated? : Outcome → Option Nat
  | .allocated slot => some slot
  | _ => none

/-- The account that owned the slot of an outcome that evicted one. -/
def previous? : Outcome → Option OwnerId
  | .evictedLru _ previous => some previous
  | _ => none

/-- An eviction evicts a slot of some account. -/
lemma exists_of_kind_evictedLru {outcome : Outcome} (h : outcome.kind = .evictedLru) :
    ∃ i previous, outcome = .evictedLru i previous := by
  cases outcome with
  | evictedLru i previous => exact ⟨i, previous, rfl⟩
  | _ => cases h

/-- Outcomes that allocated or evicted a slot, counted apart. -/
lemma countP_kind (outcomes : List Outcome) :
    (outcomes.countP fun x => x.kind = .allocated ∨ x.kind = .evictedLru) =
      (outcomes.filterMap allocated?).length + outcomes.countP fun x => x.kind = .evictedLru := by
  induction outcomes with
  | nil => rfl
  | cons outcome outcomes ih =>
    rw [List.countP_cons, List.countP_cons, List.filterMap_cons, ih]
    generalize outcomes.countP (fun x => x.kind = .evictedLru) = n
    cases outcome <;> simp [kind, allocated?] <;> omega

end Outcome

/-- How many calls of an account were allocated a slot. -/
def allocations (o : OwnerId) (history : History) : Nat :=
  history.countP fun x => x.1.owner = o ∧ x.2.kind = .allocated

/-- How many calls of an account evicted a slot of another one. -/
def takeovers (o : OwnerId) (history : History) : Nat :=
  history.countP fun x => x.1.owner = o ∧ x.2.previous?.any fun previous => previous ≠ o

/-- How many calls of other accounts evicted a slot of this one. -/
def losses (o : OwnerId) (history : History) : Nat :=
  history.countP fun x => x.1.owner ≠ o ∧ x.2.previous? = some o

namespace Roster

variable {r : Roster} {o : OwnerId} {history : History}

/-! ## One call -/

/-- A call has one outcome. -/
lemma length_run (r : Roster) (calls : List Call) : (r.run calls).2.length = calls.length := by
  induction calls generalizing r with
  | nil => rfl
  | cons c calls ih => exact congrArg (· + 1) (ih (r.record c.owner c.name c.payload c.now).1)

/-- The arena grows by the slot that a call allocates, whose number is the next one. -/
lemma Valid.range_length_tasks_record (h : r.Valid) (c : Call) :
    List.range (r.record c.owner c.name c.payload c.now).1.tasks.length =
      List.range r.tasks.length ++
        (r.record c.owner c.name c.payload c.now).2.allocated?.toList := by
  have hlength := (h.recorded_record c).length_tasks
  have hc := h.chooses_choose c.owner (Fingerprint.compute c.payload)
  have hlt : ∀ i ∈ r.slotsOf c.owner, max r.tasks.length (i + 1) = r.tasks.length := by
    intro i hi
    have := h.lt_length hi
    omega
  rw [hlength]
  simp only [Roster.record, recordFingerprint]
  generalize r.choose c.owner (Fingerprint.compute c.payload) = outcome at hc ⊢
  cases hc with
  | continued hmatch =>
    rw [Outcome.slot, hlt _ (List.mem_of_find?_eq_some hmatch)]
    simp [Outcome.allocated?]
  | replacedOwnOldest _ _ holdest =>
    rw [Outcome.slot, hlt _ (List.minOn?_mem holdest)]
    simp [Outcome.allocated?]
  | @evictedLru i _ _ _ hleast =>
    have := h.mem_recency.1 (List.mem_of_head? hleast)
    rw [Outcome.slot, show max r.tasks.length (i + 1) = r.tasks.length by omega]
    simp [Outcome.allocated?]
  | allocated =>
    rw [Outcome.slot, show max r.tasks.length (r.tasks.length + 1) = r.tasks.length + 1 by omega,
      List.range_succ]
    rfl

/-- What a call does to the number of slots of an account: it gains one that is allocated to it or
that it takes over, and loses one that another account takes over. -/
lemma Valid.length_slotsOf_record (h : r.Valid) (c : Call) (o : OwnerId) :
    ((r.record c.owner c.name c.payload c.now).1.slotsOf o).length +
        losses o [(c, (r.record c.owner c.name c.payload c.now).2)] =
      (r.slotsOf o).length + allocations o [(c, (r.record c.owner c.name c.payload c.now).2)] +
        takeovers o [(c, (r.record c.owner c.name c.payload c.now).2)] := by
  have hc := h.chooses_choose c.owner (Fingerprint.compute c.payload)
  simp only [Roster.record, recordFingerprint, losses, allocations, takeovers,
    List.countP_singleton]
  generalize r.choose c.owner (Fingerprint.compute c.payload) = outcome at hc ⊢
  cases hc with
  | continued => simp [apply, Outcome.previous?, Outcome.kind]
  | replacedOwnOldest => simp [apply, Outcome.previous?, Outcome.kind]
  | @evictedLru i _ _ _ hleast =>
    have hmem := h.mem_slotsOf_ownerAt (h.mem_recency.1 (List.mem_of_head? hleast))
    rw [apply]
    by_cases hown : r.ownerAt i = c.owner
    · rw [if_pos hown, hown]
      by_cases ho : c.owner = o <;> simp [Outcome.previous?, Outcome.kind, ho]
    · rw [if_neg hown, slotsOf_takeOver hown]
      by_cases ho : o = c.owner
      · subst ho
        simp [Outcome.previous?, Outcome.kind, hown]
      · by_cases hfrom : o = r.ownerAt i
        · -- the account that loses the slot had it before
          subst hfrom
          have hpos := List.length_pos_of_mem hmem
          rw [if_neg hown, if_pos rfl, List.length_erase_of_mem hmem]
          simp [Outcome.previous?, Outcome.kind, Ne.symm hown]
          omega
        · simp [Outcome.previous?, Outcome.kind, ho, hfrom, Ne.symm ho, Ne.symm hfrom]
  | allocated =>
    rw [apply, slotsOf_allocate]
    by_cases ho : c.owner = o
    · simp [Outcome.previous?, Outcome.kind, ho]
    · simp [Outcome.previous?, Outcome.kind, ho, Ne.symm ho]

/-! ## Every run -/

/-- The slots of a roster are those that a history accounts for: the allocated ones in order, for
every account those that it gained and did not lose, and all that there can be once one was
evicted. -/
structure Accounted (r : Roster) (history : History) : Prop where
  allocated : (history.map Prod.snd).filterMap Outcome.allocated? = List.range r.tasks.length
  full : ∀ outcome ∈ history.map Prod.snd, outcome.kind = .evictedLru →
    r.tasks.length = r.limits.globalSlots
  balance : ∀ o, (r.slotsOf o).length + losses o history =
    allocations o history + takeovers o history

namespace Accounted

/-- Before any call nothing is to be accounted for. -/
lemma empty (limits : Limits) : (Roster.empty limits).Accounted [] where
  allocated := rfl
  full := by simp
  balance := by simp [losses, allocations, takeovers]

/-- A call is accounted for. -/
lemma record (h : r.Accounted history) (hv : r.Valid) (c : Call) :
    (r.record c.owner c.name c.payload c.now).1.Accounted
      (history ++ [(c, (r.record c.owner c.name c.payload c.now).2)]) where
  allocated := by
    rw [List.map_append, List.filterMap_append, h.allocated, hv.range_length_tasks_record]
    cases hallocated : (r.record c.owner c.name c.payload c.now).2.allocated? <;>
      simp [hallocated]
  full := by
    intro outcome hmem hkind
    have hlimits := (hv.recorded_record c).limits
    have hlength := (hv.recorded_record c).length_tasks
    have hle := (hv.record c).length_tasks_le
    -- the arena was full before the call, or else the call would not have evicted a slot
    have hfull : r.limits.globalSlots ≤ r.tasks.length := by
      rw [List.map_append, List.mem_append] at hmem
      rcases hmem with hmem | hmem
      · exact (h.full outcome hmem hkind).ge
      · rw [List.mem_singleton.1 hmem] at hkind
        obtain ⟨i, previous, hevicted⟩ := Outcome.exists_of_kind_evictedLru hkind
        exact (hv.of_evictedLru hevicted).2
    rw [hlimits] at hle ⊢
    omega
  balance := by
    intro o
    have hstep := hv.length_slotsOf_record c o
    have hbefore := h.balance o
    simp only [losses, allocations, takeovers, List.countP_append] at hstep hbefore ⊢
    omega

/-- Every run is accounted for. -/
lemma run (h : r.Accounted history) (hv : r.Valid) (calls : List Call) :
    (r.run calls).1.Accounted (history ++ calls.zip (r.run calls).2) := by
  induction calls generalizing r history with
  | nil => simpa [Roster.run] using h
  | cons c calls ih =>
    have hrun := ih (h.record hv c) (hv.record c)
    rwa [List.append_assoc] at hrun

end Accounted

/-- A run from an empty roster is accounted for. -/
lemma accounted_run (limits : Limits) (calls : List Call) :
    ((empty limits).run calls).1.Accounted (calls.zip ((empty limits).run calls).2) :=
  (Accounted.empty limits).run (valid_empty limits) calls

/-- The outcomes of a run are those of its history. -/
lemma map_snd_history (r : Roster) (calls : List Call) :
    (calls.zip (r.run calls).2).map Prod.snd = (r.run calls).2 :=
  List.map_snd_zip (r.length_run calls).le

/-- A slot is evicted from a full arena only. -/
lemma length_of_evictedLru (limits : Limits) (calls : List Call) {u i : Nat} {previous : OwnerId}
    (h : ((empty limits).run calls).2[u]? = some (.evictedLru i previous)) :
    ((empty limits).run (calls.take u)).1.tasks.length = limits.clamped.globalSlots := by
  have hv := valid_run limits (calls.take u)
  rw [getElem?_run] at h
  obtain ⟨c, -, hchoose⟩ := Option.map_eq_some_iff.1 h
  have hlimits := (valid_empty limits).limits_run (calls.take u)
  have hle := hv.length_tasks_le
  have hge := (hv.of_evictedLru hchoose).2
  rw [hlimits] at hle hge
  exact le_antisymm hle hge

/-- After a slot has been evicted, none is allocated.

**Proof sketch.** Once there was an eviction the arena is full (`Accounted.full`), and a slot is
allocated only while it is not. -/
lemma not_allocated_of_evictedLru (limits : Limits) (calls : List Call) {u v i j : Nat}
    {previous : OwnerId} (huv : u < v)
    (hevicted : ((empty limits).run calls).2[u]? = some (.evictedLru i previous)) :
    ((empty limits).run calls).2[v]? ≠ some (.allocated j) := by
  intro hallocated
  have hv := valid_run limits (calls.take v)
  have hfull := (accounted_run limits (calls.take v)).full
  rw [map_snd_history, run_take] at hfull
  rw [getElem?_run] at hallocated
  obtain ⟨c, -, hchoose⟩ := Option.map_eq_some_iff.1 hallocated
  have hmem : Outcome.evictedLru i previous ∈ ((empty limits).run calls).2.take v :=
    List.mem_of_getElem? (by rw [List.getElem?_take_of_lt huv, hevicted])
  exact absurd (hv.of_allocated hchoose).2 (hfull _ hmem rfl).ge.not_gt

/-- The arena holds as many slots as outcomes allocated or evicted one, up to the limit.

**Proof sketch.** If none was evicted, these are the outcomes that allocated one, as many as there
are slots.  Otherwise the arena is full. -/
lemma length_tasks_run (limits : Limits) (calls : List Call) :
    ((empty limits).run calls).1.tasks.length =
      min limits.clamped.globalSlots (((empty limits).run calls).2.countP fun x =>
        x.kind = .allocated ∨ x.kind = .evictedLru) := by
  have haccounted := accounted_run limits calls
  have hallocated := congrArg List.length haccounted.allocated
  have hfull := haccounted.full
  have hle := (valid_run limits calls).length_tasks_le
  have hcapacity :
      ((empty limits).run calls).1.limits.globalSlots = limits.clamped.globalSlots := by
    rw [(valid_empty limits).limits_run]
    rfl
  rw [hcapacity] at hfull hle
  rw [map_snd_history] at hallocated hfull
  rw [List.length_range] at hallocated
  rw [Outcome.countP_kind, hallocated]
  rcases Nat.eq_zero_or_pos
    (((empty limits).run calls).2.countP fun x => x.kind = .evictedLru) with hzero | hpos
  · rw [hzero, Nat.add_zero, Nat.min_eq_right hle]
  · obtain ⟨outcome, hmem, hkind⟩ := List.countP_pos_iff.1 hpos
    rw [hfull outcome hmem (of_decide_eq_true hkind)]
    exact (Nat.min_eq_left (Nat.le_add_right _ _)).symm

/-- Three accounts on two slots: the third takes the slot of the first, which then takes that of the
second. -/
lemma run_taken_in_turn (payload : ByteArray) :
    ((empty ⟨2, 1⟩).run [⟨1, "a", payload, 1⟩, ⟨2, "b", payload, 2⟩, ⟨3, "c", payload, 3⟩,
      ⟨1, "a", payload, 4⟩]).2 =
        [.allocated 0, .allocated 1, .evictedLru 0 1, .evictedLru 1 2] := by
  simp [run, Roster.record, recordFingerprint, choose, matching?, ownVictim?, victim?, apply,
    allocate, assign, release, takeOver, track, ownerAt, slotsOf, empty, Limits.clamped]

end Roster

namespace Registry

variable {r : Registry} {ro : Roster}

/-- An account is in the index when it owns a slot. -/
lemma Spells.mem_owners_iff (h : r.Spells ro) (hv : ro.Valid) (o : OwnerId) :
    o ∈ r.owners ↔ 0 < (ro.slotsOf o).length := by
  rw [Std.TreeMap.mem_iff_isSome_getElem?, h.isSome_owners, hv.isSome_owned_iff,
    List.length_pos_iff_exists_mem]

/-- **No slot is lost or counted twice**, in any run and whatever the limits.  The slots that were
allocated are numbered from zero on without a gap, and they are all there are.  A slot is evicted
only when as many are in use as there can be, and none is allocated after that; so the number of
slots in use is that of the outcomes that allocated or evicted one, up to the limit.  An account
owns the slots it was allocated and those it took over from others, less those that others took
over from it, and it is in the index exactly when these are more than none.

**Proof sketch.** Every call is accounted for (`Roster.Accounted.run`): it makes the arena grow by
the slot that it allocates, and changes the lists of all accounts as
`Roster.Valid.length_slotsOf_record` says. -/
theorem accounts_run (limits : Limits) (calls : List Call) :
    let r := ((empty limits).run calls).1
    let outcomes := ((empty limits).run calls).2
    let history := calls.zip outcomes
    let capacity := max limits.globalSlots 1
    outcomes.filterMap Outcome.allocated? = List.range r.size ∧
      (∀ u i previous, outcomes[u]? = some (.evictedLru i previous) →
        ((empty limits).run (calls.take u)).1.size = capacity ∧
          ∀ v j, u < v → outcomes[v]? ≠ some (.allocated j)) ∧
      r.size = min capacity
        (outcomes.countP fun x => x.kind = .allocated ∨ x.kind = .evictedLru) ∧
      ∀ o,
        let balance : Int := allocations o history + takeovers o history - losses o history
        ((r.chainOf o).length : Int) = balance ∧ ((r.slotsOf o).length : Int) = balance ∧
          (o ∈ r.owners ↔ 0 < balance) := by
  intro r outcomes history capacity
  obtain ⟨hspells, houtcomes⟩ := (spells_empty limits).run (Roster.valid_empty limits) calls
  have hv := Roster.valid_run limits calls
  have haccounted := Roster.accounted_run limits calls
  have hsize : ∀ calls, ((empty limits).run calls).1.size =
      ((Roster.empty limits).run calls).1.tasks.length :=
    fun calls => (spells_run limits calls).size_eq
  have hallocated := haccounted.allocated
  rw [Roster.map_snd_history, ← houtcomes] at hallocated
  simp only [outcomes, history, r, hsize, houtcomes]
  refine ⟨?_, fun u i previous hevicted => ⟨Roster.length_of_evictedLru limits calls hevicted,
    fun v j huv => Roster.not_allocated_of_evictedLru limits calls huv hevicted⟩,
    Roster.length_tasks_run limits calls, fun o => ?_⟩
  · rw [← houtcomes]
    exact hallocated
  · have hbalance := haccounted.balance o
    rw [(hspells.chainOf o).length, hspells.slotsOf_eq, hspells.mem_owners_iff hv]
    omega

/-- Three accounts share two slots.  The first loses its slot and takes over that of the second,
which is left with none. -/
theorem accounts_taken_in_turn :
    let calls : List Call := [⟨1, "a", .empty, 1⟩, ⟨2, "b", .empty, 2⟩, ⟨3, "c", .empty, 3⟩,
      ⟨1, "a", .empty, 4⟩]
    let r := ((empty ⟨2, 1⟩).run calls).1
    let outcomes := ((empty ⟨2, 1⟩).run calls).2
    outcomes = [.allocated 0, .allocated 1, .evictedLru 0 1, .evictedLru 1 2] ∧
      ((empty ⟨2, 1⟩).run (calls.take 2)).1.size = 2 ∧ 2 < 3 ∧
      outcomes[3]? ≠ some (.allocated 2) ∧ r.size = 2 ∧
      ((r.slotsOf 1).length : Int) = 1 + 1 - 1 ∧ 2 ∉ r.owners := by
  intro calls r outcomes
  have houtcomes : outcomes = [.allocated 0, .allocated 1, .evictedLru 0 1, .evictedLru 1 2] :=
    ((spells_empty ⟨2, 1⟩).run (Roster.valid_empty ⟨2, 1⟩) calls).2.trans
      (Roster.run_taken_in_turn .empty)
  obtain ⟨-, hevictions, hsize, hbalance⟩ := accounts_run ⟨2, 1⟩ calls
  obtain ⟨hfull, hnone⟩ := hevictions 2 0 1 (congrArg (fun os => os[2]?) houtcomes)
  refine ⟨houtcomes, hfull, by decide, hnone 3 2 (by decide), hsize.trans ?_,
    (hbalance 1).2.1.trans ?_, mt (hbalance 2).2.2.1 ?_⟩
  · change min 2 (outcomes.countP _) = 2
    rw [houtcomes]
    rfl
  · change ((allocations 1 (calls.zip outcomes) : Int) + takeovers 1 (calls.zip outcomes) -
      losses 1 (calls.zip outcomes)) = 1 + 1 - 1
    rw [houtcomes]
    rfl
  · change ¬ 0 < ((allocations 2 (calls.zip outcomes) : Int) + takeovers 2 (calls.zip outcomes) -
      losses 2 (calls.zip outcomes))
    rw [houtcomes]
    decide

end Registry

end InFlight
