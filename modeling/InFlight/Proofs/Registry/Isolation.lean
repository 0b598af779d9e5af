import Mathlib.Data.List.Find
import InFlight.Proofs.Registry.Activity
import InFlight.Proofs.Registry.Deduplication

/-!
# Accounts do not interfere below capacity

As long as no slot is evicted, what recording does for an account only depends on the calls of
that account: it gets the same outcomes, its slots track the same tasks in the same order, and it
has the same row in every ranking as if the other accounts had not called at all.

## Main definitions

* `InFlight.Outcome.Kind`, `InFlight.Outcome.kind` — which case an outcome is, without its slot.
* `InFlight.kindsOf` — the kinds of the outcomes of an account's calls.
* `InFlight.Roster.Mirrors` — a roster holds what another one holds for an account, under other
  slot numbers.

## Main results

* `InFlight.Roster.Mirrors.record_own`, `InFlight.Roster.Mirrors.record_other` — a call of the
  account is made on both rosters, one of another account on the first only.
* `InFlight.Roster.Mirrors.run` — the same over a run.
* `InFlight.Registry.isolated_run` — an account alone and among others.

## Design

The slots of an account have other numbers when it is alone, so the two rosters are compared under
a renaming of the slots of the account.  The choice commutes with the renaming, since matching
and looking for the oldest slot only read the tasks in the list of the account.  Room in the
arena is the one thing that accounts share; the roster of the account alone is never the larger
one, so it has room whenever the other one does.
-/

set_option relaxedAutoImplicit false
set_option autoImplicit false

namespace InFlight

/-! ## Kinds of outcomes -/

/-- The cases of an outcome. -/
inductive Outcome.Kind where
  | continued
  | replacedOwnOldest
  | evictedLru
  | allocated
deriving DecidableEq, Repr

/-- Which case an outcome is. -/
def Outcome.kind : Outcome → Outcome.Kind
  | .continued _ => .continued
  | .replacedOwnOldest _ => .replacedOwnOldest
  | .evictedLru _ _ => .evictedLru
  | .allocated _ => .allocated

/-- The kinds of the outcomes of an account's calls, in order. -/
def kindsOf (o : OwnerId) (calls : List Call) (outcomes : List Outcome) : List Outcome.Kind :=
  ((calls.zip outcomes).filter fun x => x.1.owner = o).map fun x => x.2.kind

/-- A call of the account counts with its kind of outcome. -/
lemma kindsOf_cons_self {o : OwnerId} {c : Call} (ho : c.owner = o) (calls : List Call)
    (outcome : Outcome) (outcomes : List Outcome) :
    kindsOf o (c :: calls) (outcome :: outcomes) = outcome.kind :: kindsOf o calls outcomes := by
  simp [kindsOf, ho]

/-- A call of another account does not count. -/
lemma kindsOf_cons_other {o : OwnerId} {c : Call} (ho : c.owner ≠ o) (calls : List Call)
    (outcome : Outcome) (outcomes : List Outcome) :
    kindsOf o (c :: calls) (outcome :: outcomes) = kindsOf o calls outcomes := by
  simp [kindsOf, ho]

/-- The kinds of an account's outcomes are among those of all outcomes. -/
lemma exists_of_mem_kindsOf {o : OwnerId} {calls : List Call} {outcomes : List Outcome}
    {kind : Outcome.Kind} (h : kind ∈ kindsOf o calls outcomes) :
    ∃ outcome ∈ outcomes, outcome.kind = kind := by
  obtain ⟨x, hx, rfl⟩ := List.mem_map.1 h
  exact ⟨x.2, (List.of_mem_zip (List.mem_of_mem_filter hx)).2, rfl⟩

namespace Roster

variable {r s : Roster} {o : OwnerId} {fp : Fingerprint} {i j : Nat} {task : Task}
  {rename : Nat → Nat}

/-! ## Calls that evict nothing -/

/-- A call that evicts nothing tracks its task in a slot of the account or in a new one. -/
lemma Valid.record_eq (h : r.Valid) (c : Call)
    (hkind : (r.record c.owner c.name c.payload c.now).2.kind ≠ .evictedLru) :
    (∃ i ∈ r.slotsOf c.owner, (r.record c.owner c.name c.payload c.now).1 = r.track i c.task) ∨
      (r.record c.owner c.name c.payload c.now).1 = r.allocate c.task := by
  have hc := h.chooses_choose c.owner (Fingerprint.compute c.payload)
  simp only [Roster.record, recordFingerprint] at hkind ⊢
  generalize r.choose c.owner (Fingerprint.compute c.payload) = outcome at hc hkind ⊢
  cases hc with
  | @continued i hmatch => exact .inl ⟨i, List.mem_of_find?_eq_some hmatch, rfl⟩
  | @replacedOwnOldest i _ _ holdest => exact .inl ⟨i, List.minOn?_mem holdest, rfl⟩
  | evictedLru => exact absurd rfl hkind
  | allocated => exact .inr rfl

/-- Such a call keeps the slot numbers ascending along the list of every account: the slots of an
account stay as they are, or the highest number of all comes last. -/
lemma Valid.ascending_record (h : r.Valid) (hasc : ∀ o, (r.slotsOf o).Pairwise (· < ·)) (c : Call)
    (hkind : (r.record c.owner c.name c.payload c.now).2.kind ≠ .evictedLru) (o : OwnerId) :
    ((r.record c.owner c.name c.payload c.now).1.slotsOf o).Pairwise (· < ·) := by
  obtain ⟨i, -, heq⟩ | heq := h.record_eq c hkind
  · rw [heq, slotsOf_track]
    exact hasc o
  · rw [heq, slotsOf_allocate]
    split_ifs with ho
    · refine List.pairwise_append.2 ⟨hasc o, List.pairwise_singleton _ _, fun j hj k hk => ?_⟩
      rw [List.mem_singleton.1 hk]
      exact h.lt_length hj
    · exact hasc o

/-- A run that evicts nothing keeps the slot numbers ascending. -/
lemma Valid.ascending_run (h : r.Valid) (hasc : ∀ o, (r.slotsOf o).Pairwise (· < ·))
    (calls : List Call) (hkinds : ∀ outcome ∈ (r.run calls).2, outcome.kind ≠ .evictedLru)
    (o : OwnerId) : ((r.run calls).1.slotsOf o).Pairwise (· < ·) := by
  induction calls generalizing r with
  | nil => exact hasc o
  | cons c calls ih =>
    obtain ⟨hkind, hkinds⟩ := List.forall_mem_cons.1 hkinds
    exact ih (h.record c) (h.ascending_record hasc c hkind) hkinds

/-! ## An account under other slot numbers -/

/-- Roster `s` has the limits of `r` and no more slots, and under other numbers the slots of
account `o` track the same tasks in the same order. -/
structure Mirrors (o : OwnerId) (r s : Roster) (rename : Nat → Nat) : Prop where
  limits : s.limits = r.limits
  length_le : s.tasks.length ≤ r.tasks.length
  slots : s.slotsOf o = (r.slotsOf o).map rename
  tasks : ∀ i ∈ r.slotsOf o, s.tasks[rename i]? = r.tasks[i]?

/-- The first least element of a renamed list is the renamed first least element. -/
lemma minOn?_map {xs : List Nat} {f g : Nat → Int} (h : ∀ i ∈ xs, f (rename i) = g i) :
    (xs.map rename).minOn? f = (xs.minOn? g).map rename := by
  induction xs with
  | nil => rfl
  | cons x xs ih =>
    rw [List.forall_mem_cons] at h
    rw [List.map_cons, List.minOn?_cons, List.minOn?_cons, ih h.2]
    cases hmin : xs.minOn? g with
    | none => rfl
    | some m =>
      simp only [Option.map_some, Option.elim_some, minOn, h.1, h.2 m (List.minOn?_mem hmin)]
      split_ifs <;> rfl

namespace Mirrors

variable (h : Mirrors o r s rename)

include h

/-- Two slots of the account have two names. -/
lemma rename_inj (hs : s.Valid) (hi : i ∈ r.slotsOf o) (hj : j ∈ r.slotsOf o)
    (hij : rename i = rename j) : i = j := by
  have hnodup := hs.nodup_slotsOf o
  rw [h.slots] at hnodup
  exact List.inj_on_of_nodup_map hnodup hi hj hij

/-- The slot that is continued is the same up to renaming. -/
lemma matching?_eq (fp : Fingerprint) : s.matching? o fp = (r.matching? o fp).map rename := by
  rw [matching?, matching?, h.slots, List.find?_map]
  refine congrArg _ (List.find?_congr fun i hi => ?_)
  rw [Function.comp_apply, continuedBy, continuedBy, h.tasks i hi]

/-- The slot that the account overwrites is the same up to renaming. -/
lemma ownVictim?_eq : s.ownVictim? o = (r.ownVictim? o).map rename := by
  have htime : ∀ i ∈ r.slotsOf o, s.updatedAt (rename i) = r.updatedAt i := fun i hi => by
    rw [updatedAt, updatedAt, h.tasks i hi]
  rw [ownVictim?, ownVictim?, h.limits, h.slots, List.length_map, minOn?_map htime]
  split_ifs <;> rfl

/-! ### Calls of other accounts -/

/-- Another account tracks a task in one of its slots. -/
lemma track_other (hr : r.Valid) (hi : i ∈ r.slotsOf task.owner) (ho : task.owner ≠ o) :
    Mirrors o (r.track i task) s rename where
  limits := h.limits
  length_le := by simpa [track] using h.length_le
  slots := h.slots
  tasks := by
    intro j hj
    have hij : i ≠ j := by
      rintro rfl
      exact ho (hr.owner_unique hi hj)
    rw [h.tasks j hj, track, List.getElem?_set_ne hij]

/-- Another account gets a new slot. -/
lemma allocate_other (hr : r.Valid) (ho : task.owner ≠ o) :
    Mirrors o (r.allocate task) s rename where
  limits := h.limits
  length_le := by
    have hle := h.length_le
    simp only [allocate, tasks_assign, List.length_append]
    omega
  slots := by rw [slotsOf_allocate, if_neg ho.symm, h.slots]
  tasks := by
    intro j hj
    rw [slotsOf_allocate, if_neg ho.symm] at hj
    rw [h.tasks j hj, allocate, tasks_assign, List.getElem?_append_left (hr.lt_length hj)]

/-- A call of another account that evicts nothing leaves the account as it is. -/
theorem record_other (hr : r.Valid) (c : Call) (ho : c.owner ≠ o)
    (hkind : (r.record c.owner c.name c.payload c.now).2.kind ≠ .evictedLru) :
    Mirrors o (r.record c.owner c.name c.payload c.now).1 s rename := by
  obtain ⟨i, hi, heq⟩ | heq := hr.record_eq c hkind
  · rw [heq]
    exact h.track_other hr hi ho
  · rw [heq]
    exact h.allocate_other hr ho

/-! ### Calls of the account -/

/-- The account tracks a task in one of its slots, on both rosters. -/
lemma track_own (hr : r.Valid) (hs : s.Valid) (task : Task) (hi : i ∈ r.slotsOf o) :
    Mirrors o (r.track i task) (s.track (rename i) task) rename where
  limits := h.limits
  length_le := by simpa [track] using h.length_le
  slots := h.slots
  tasks := by
    intro j hj
    simp only [track]
    by_cases hij : i = j
    · subst hij
      have hi' : rename i ∈ s.slotsOf o := h.slots ▸ List.mem_map_of_mem hi
      rw [List.getElem?_set_self (hr.lt_length hi), List.getElem?_set_self (hs.lt_length hi')]
    · have hne : rename i ≠ rename j := fun e => hij (h.rename_inj hs hi hj e)
      rw [List.getElem?_set_ne hij, List.getElem?_set_ne hne, h.tasks j hj]

/-- The account gets a new slot, on both rosters. -/
lemma allocate_own (hr : r.Valid) (hs : s.Valid) (ho : task.owner = o) :
    Mirrors o (r.allocate task) (s.allocate task)
      (Function.update rename r.tasks.length s.tasks.length) := by
  have hold : ∀ j ∈ r.slotsOf o,
      Function.update rename r.tasks.length s.tasks.length j = rename j := fun j hj =>
    Function.update_of_ne (hr.lt_length hj).ne _ _
  refine ⟨h.limits, ?_, ?_, fun j hj => ?_⟩
  · simpa [allocate] using h.length_le
  · rw [slotsOf_allocate, slotsOf_allocate, if_pos ho.symm, if_pos ho.symm, List.map_append,
      List.map_congr_left hold, List.map_singleton, Function.update_self, h.slots]
  · rw [slotsOf_allocate, if_pos ho.symm, List.mem_append, List.mem_singleton] at hj
    simp only [allocate, tasks_assign]
    rcases hj with hj | rfl
    · have hj' : rename j ∈ s.slotsOf o := h.slots ▸ List.mem_map_of_mem hj
      rw [hold j hj, List.getElem?_append_left (hr.lt_length hj),
        List.getElem?_append_left (hs.lt_length hj'), h.tasks j hj]
    · rw [Function.update_self, List.getElem?_concat_length, List.getElem?_concat_length]

/-- **A call of the account** that evicts nothing has an outcome of the same kind on both rosters,
and the second roster mirrors the first again.

**Proof sketch.** The slot that continues, or the account's oldest one, has the same place in both
lists.  If there is neither and the first roster has room, so does the second, which is not
larger. -/
theorem record_own (hr : r.Valid) (hs : s.Valid) (c : Call) (ho : c.owner = o)
    (hkind : (r.record c.owner c.name c.payload c.now).2.kind ≠ .evictedLru) :
    (s.record c.owner c.name c.payload c.now).2.kind =
        (r.record c.owner c.name c.payload c.now).2.kind ∧
      ∃ rename', Mirrors o (r.record c.owner c.name c.payload c.now).1
        (s.record c.owner c.name c.payload c.now).1 rename' := by
  subst ho
  have hmatching := h.matching?_eq (Fingerprint.compute c.payload)
  have hvictim := h.ownVictim?_eq
  have hc := hr.chooses_choose c.owner (Fingerprint.compute c.payload)
  simp only [record, recordFingerprint] at hkind ⊢
  generalize r.choose c.owner (Fingerprint.compute c.payload) = outcome at hc hkind ⊢
  cases hc with
  | @continued i hmatch =>
    have hchoose : s.choose c.owner (Fingerprint.compute c.payload) = .continued (rename i) := by
      rw [choose, hmatching, hmatch, Option.map_some]
    rw [hchoose]
    exact ⟨rfl, rename, h.track_own hr hs _ (List.mem_of_find?_eq_some hmatch)⟩
  | @replacedOwnOldest i hmatch hfull holdest =>
    have hchoose : s.choose c.owner (Fingerprint.compute c.payload) =
        .replacedOwnOldest (rename i) := by
      rw [choose, hmatching, hmatch, Option.map_none, hvictim, ownVictim?, if_pos hfull, holdest,
        Option.map_some]
    rw [hchoose]
    exact ⟨rfl, rename, h.track_own hr hs _ (List.minOn?_mem holdest)⟩
  | evictedLru => exact absurd rfl hkind
  | allocated hmatch hroom hspace =>
    have hnotFull : ¬ s.limits.globalSlots ≤ s.tasks.length := by
      have hle := h.length_le
      rw [h.limits]
      omega
    have hchoose : s.choose c.owner (Fingerprint.compute c.payload) =
        .allocated s.tasks.length := by
      rw [choose, hmatching, hmatch, Option.map_none, hvictim, ownVictim?,
        if_neg (Nat.not_le.2 hroom), Option.map_none, victim?, if_neg hnotFull]
    rw [hchoose]
    exact ⟨rfl, _, h.allocate_own hr hs rfl⟩

/-! ### Runs -/

/-- **A run that evicts nothing**, and the calls of the account alone: the outcomes of the account
are of the same kinds, and the second roster mirrors the first. -/
theorem run (hr : r.Valid) (hs : s.Valid) (calls : List Call)
    (hkinds : ∀ outcome ∈ (r.run calls).2, outcome.kind ≠ .evictedLru) :
    kindsOf o calls (r.run calls).2 =
        (s.run (calls.filter fun c => c.owner = o)).2.map Outcome.kind ∧
      ∃ rename', Mirrors o (r.run calls).1 (s.run (calls.filter fun c => c.owner = o)).1
        rename' := by
  induction calls generalizing r s rename with
  | nil => exact ⟨rfl, rename, h⟩
  | cons c calls ih =>
    obtain ⟨hkind, hkinds⟩ := List.forall_mem_cons.1 hkinds
    by_cases ho : c.owner = o
    · obtain ⟨hsame, rename', hstep⟩ := h.record_own hr hs c ho hkind
      obtain ⟨hkindsOf, hmirrors⟩ := ih hstep (hr.record c) (hs.record c) hkinds
      have hcalls : (c :: calls).filter (fun c => c.owner = o) =
          c :: calls.filter fun c => c.owner = o := List.filter_cons_of_pos (by simpa using ho)
      rw [hcalls]
      refine ⟨?_, hmirrors⟩
      simp only [Roster.run, kindsOf_cons_self ho, hkindsOf, List.map_cons, hsame]
    · have hstep := h.record_other hr c ho hkind
      obtain ⟨hkindsOf, hmirrors⟩ := ih hstep (hr.record c) hs hkinds
      have hcalls : (c :: calls).filter (fun c => c.owner = o) =
          calls.filter fun c => c.owner = o := List.filter_cons_of_neg (by simpa using ho)
      rw [hcalls]
      refine ⟨?_, hmirrors⟩
      simp only [Roster.run, kindsOf_cons_other ho, hkindsOf]

/-- The account has the same tasks on both rosters. -/
lemma tasksOf_eq : s.tasksOf o = r.tasksOf o := by
  rw [tasksOf, tasksOf, h.slots, List.filterMap_map]
  exact List.filterMap_congr h.tasks

end Mirrors

/-- An empty roster mirrors itself. -/
lemma mirrors_empty (limits : Limits) (o : OwnerId) :
    Mirrors o (empty limits) (empty limits) id where
  limits := rfl
  length_le := le_rfl
  slots := rfl
  tasks := by simp

/-- An account with one slot overwrites it, after another account has taken the first slot. -/
lemma run_two_accounts {f g : ByteArray}
    (hfg : (Fingerprint.compute f).continues (Fingerprint.compute g) = false) :
    ((empty ⟨3, 1⟩).run [⟨2, "b", f, 1⟩, ⟨1, "a", f, 2⟩, ⟨1, "a", g, 3⟩]).2 =
      [.allocated 0, .allocated 1, .replacedOwnOldest 1] := by
  simp [run, record, recordFingerprint, choose, matching?, ownVictim?, victim?, apply, allocate,
    assign, track, continuedBy, slotsOf, empty, Limits.clamped, hfg]

end Roster

/-! ## Every run -/

namespace Registry

/-- **Accounts do not interfere below capacity**: in a run in which no slot is evicted, the outcomes
of an account's calls are of the same kinds as when only those calls are made, on a fresh
registry with the same limits.  In the end the account's slots track the same tasks in the same
order, and the account has the same row in every ranking.

**Proof sketch.** The roster of the calls of the account mirrors that of all calls
(`Roster.Mirrors.run`).  Neither run evicts, so in both the slot numbers ascend along the list of
the account, and the ranking meets its tasks in list order. -/
theorem isolated_run (limits : Limits) (calls : List Call) (o : OwnerId)
    (hkinds : ∀ outcome ∈ ((empty limits).run calls).2, outcome.kind ≠ .evictedLru) :
    let all := (empty limits).run calls
    let alone := (empty limits).run (calls.filter fun c => c.owner = o)
    kindsOf o calls all.2 = alone.2.map Outcome.kind ∧
      all.1.tasksOf o = alone.1.tasksOf o ∧
      ∀ window now : Int, (all.1.rank window none now).filter (fun row => row.owner = o) =
        (alone.1.rank window none now).filter fun row => row.owner = o := by
  intro all alone
  obtain ⟨hall, hallOutcomes⟩ := (spells_empty limits).run (Roster.valid_empty limits) calls
  obtain ⟨halone, haloneOutcomes⟩ := (spells_empty limits).run (Roster.valid_empty limits)
    (calls.filter fun c => c.owner = o)
  rw [hallOutcomes] at hkinds
  obtain ⟨hsame, rename, hmirrors⟩ := (Roster.mirrors_empty limits o).run
    (Roster.valid_empty limits) (Roster.valid_empty limits) calls hkinds
  have hnone : ∀ o, (((Roster.empty limits).slotsOf o)).Pairwise (· < ·) := by simp
  have haloneKinds : ∀ outcome ∈ ((Roster.empty limits).run
      (calls.filter fun c => c.owner = o)).2, outcome.kind ≠ .evictedLru := by
    intro outcome hmem
    have hkind : outcome.kind ∈ kindsOf o calls ((Roster.empty limits).run calls).2 :=
      hsame ▸ List.mem_map_of_mem hmem
    obtain ⟨outcome', hmem', hkind'⟩ := exists_of_mem_kindsOf hkind
    exact hkind' ▸ hkinds outcome' hmem'
  have htasks : all.1.tasksOf o = alone.1.tasksOf o := by
    rw [hall.tasksOf_eq, halone.tasksOf_eq, hmirrors.tasksOf_eq]
  refine ⟨?_, htasks, filter_rank_congr ?_⟩
  · rw [hallOutcomes, haloneOutcomes]
    exact hsame
  · have hasc := (Roster.valid_empty limits).ascending_run hnone calls hkinds o
    have hascAlone := (Roster.valid_empty limits).ascending_run hnone _ haloneKinds o
    rw [hall.tasks, halone.tasks, (Roster.valid_run limits calls).filter_tasks hasc,
      (Roster.valid_run limits _).filter_tasks hascAlone, hmirrors.tasksOf_eq]

/-- Account 1 overwrites its only slot, whether that is slot 1, after the slot of account 2, or
slot 0, when account 1 is alone. -/
theorem isolated_two_accounts :
    let all := (empty ⟨3, 1⟩).run
      [⟨2, "b", letters 8, 1⟩, ⟨1, "a", letters 8, 2⟩, ⟨1, "a", letters 512, 3⟩]
    let alone := (empty ⟨3, 1⟩).run [⟨1, "a", letters 8, 2⟩, ⟨1, "a", letters 512, 3⟩]
    all.2 = [.allocated 0, .allocated 1, .replacedOwnOldest 1] ∧
      alone.2.map Outcome.kind = [.allocated, .replacedOwnOldest] ∧
      all.1.tasksOf 1 = alone.1.tasksOf 1 ∧
      (all.1.rank 300 none 3).filter (fun row => row.owner = 1) =
        (alone.1.rank 300 none 3).filter fun row => row.owner = 1 := by
  intro all alone
  have houtcomes : all.2 = [.allocated 0, .allocated 1, .replacedOwnOldest 1] :=
    ((spells_empty ⟨3, 1⟩).run (Roster.valid_empty ⟨3, 1⟩) _).2.trans
      (Roster.run_two_accounts not_continues_letters)
  have hkinds : ∀ outcome ∈ all.2, outcome.kind ≠ .evictedLru := by
    rw [houtcomes]
    decide
  obtain ⟨hsame, htasks, hrow⟩ := isolated_run ⟨3, 1⟩ _ 1 hkinds
  refine ⟨houtcomes, hsame.symm.trans ?_, htasks, hrow 300 3⟩
  change kindsOf 1 _ all.2 = _
  rw [houtcomes]
  rfl

end Registry

end InFlight
