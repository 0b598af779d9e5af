import InFlight.Proofs.Registry.Chain
import InFlight.Proofs.Registry.Validity

/-!
# Chains refine lists

A registry *spells* a roster when its chains spell the lists of the roster.  Recording the same
task on both gives the same outcome, and the registry spells the roster again; so after any
sequence of calls the registry stands for the roster that the calls make of plain lists.

## Main definitions

* `InFlight.Registry.Spells` — the chains of a registry spell the lists of a roster.

## Main results

* `InFlight.Registry.Spells.roster_eq` — a registry stands for the roster that it spells.
* `InFlight.Registry.Spells.choose_eq`, `InFlight.Registry.Spells.recordFingerprint` — one call.
* `InFlight.Registry.roster_run` — every run.

## Design

Each operation of the registry is matched with an update of the roster, so the four outcomes are
put together from the same few lemmas.  Taking a slot out of the chain of one account, or
putting it behind another, leaves the remaining chains alone because no slot is in two of them;
this is the only part of the invariant of rosters that the splices need (`Roster.Exclusive`).
-/

set_option relaxedAutoImplicit false
set_option autoImplicit false

namespace InFlight

/-- No slot belongs to two accounts. -/
def Roster.Exclusive (r : Roster) : Prop :=
  ∀ o o' i, i ∈ r.slotsOf o → i ∈ r.slotsOf o' → o = o'

namespace Registry

/-- The registry has the limits and tasks of the roster, and its chains spell the lists of the
roster. -/
structure Spells (r : Registry) (ro : Roster) : Prop where
  limits : r.limits = ro.limits
  tasks : r.tasks.toList = ro.tasks
  size_recencyLinks : r.recencyLinks.size = r.tasks.size
  size_ownerLinks : r.ownerLinks.size = r.tasks.size
  recency : r.recency.Spells r.recencyLinks ro.recency
  chainOf : ∀ o, (r.chainOf o).Spells r.ownerLinks (ro.slotsOf o)
  isSome_owners : ∀ o, (r.owners[o]?).isSome = (ro.owned o).isSome

variable {r : Registry} {ro : Roster} {owner o : OwnerId} {i : Nat}

/-- The empty registry spells the empty roster. -/
lemma spells_empty (limits : Limits) : (empty limits).Spells (Roster.empty limits) where
  limits := rfl
  tasks := rfl
  size_recencyLinks := rfl
  size_ownerLinks := rfl
  recency := Chain.spells_nil _
  chainOf := by
    intro o
    have hnone : (empty limits).chainOf o = {} := by simp [Registry.chainOf, empty]
    rw [hnone]
    exact Chain.spells_nil _
  isSome_owners := by
    intro o
    simp [empty, Roster.empty]

/-- The chains of all accounts after a slot is put at the end of one. -/
lemma getElem?_owners_assign (r : Registry) (owner o : OwnerId) (i : Nat) :
    (r.assign owner i).owners[o]? =
      if o = owner then some (r.ownerLinks.pushBack (r.chainOf owner) i).2 else r.owners[o]? := by
  by_cases ho : o = owner
  · subst ho
    simp [assign]
  · simp [assign, Std.TreeMap.getElem?_insert, ho, Ne.symm ho]

/-- The chains of all accounts after a slot is taken out of one. -/
lemma getElem?_owners_release (r : Registry) (owner o : OwnerId) (i : Nat) :
    (r.release owner i).owners[o]? =
      if o = owner then
        if (r.ownerLinks.unlink (r.chainOf owner) i).2.length = 0 then none
        else some (r.ownerLinks.unlink (r.chainOf owner) i).2
      else r.owners[o]? := by
  simp only [release]
  by_cases ho : o = owner
  · subst ho
    rw [if_pos rfl]
    split_ifs <;> simp
  · split_ifs <;> simp [Std.TreeMap.getElem?_insert, Std.TreeMap.getElem?_erase, Ne.symm ho]

namespace Spells

/-! ## The views -/

/-- There are as many slots as in the roster. -/
lemma size_eq (h : r.Spells ro) : r.tasks.size = ro.tasks.length := by
  rw [← h.tasks, Array.length_toList]

/-- A slot tracks the task that it tracks in the roster. -/
lemma getElem?_tasks (h : r.Spells ro) (i : Nat) : r.tasks[i]? = ro.tasks[i]? := by
  rw [← h.tasks, Array.getElem?_toList]

/-- The recency chain lists the slots in the order of the roster. -/
lemma recencyOrder_eq (h : r.Spells ro) : r.recencyOrder = ro.recency := h.recency.toList_eq

/-- The chain of an account lists its slots in the order of the roster. -/
lemma slotsOf_eq (h : r.Spells ro) (o : OwnerId) : r.slotsOf o = ro.slotsOf o :=
  (h.chainOf o).toList_eq

/-- A registry stands for the roster that it spells. -/
theorem roster_eq (h : r.Spells ro) : r.roster = ro := by
  have howned : r.roster.owned = ro.owned := by
    funext o
    have hsome := h.isSome_owners o
    have hslots := h.slotsOf_eq o
    simp only [roster, Registry.slotsOf, Registry.chainOf, Roster.slotsOf] at hslots ⊢
    cases hc : r.owners[o]? with
    | none =>
      rw [hc, Option.isSome_none, eq_comm, Option.isSome_eq_false_iff, Option.isNone_iff_eq_none]
        at hsome
      rw [hsome]
      rfl
    | some c =>
      rw [hc, Option.isSome_some, eq_comm, Option.isSome_iff_exists] at hsome
      obtain ⟨xs, hxs⟩ := hsome
      rw [hc, hxs] at hslots
      rw [hxs]
      exact congrArg some hslots
  obtain ⟨limits, tasks, recency, owned⟩ := ro
  have hrec := h.recencyOrder_eq
  have htasks := h.tasks
  have hlimits := h.limits
  simp only [roster] at howned ⊢
  rw [hrec, htasks, hlimits, howned]

/-! ## The choice -/

/-- A slot was last touched when it was in the roster. -/
lemma updatedAt_eq (h : r.Spells ro) : r.updatedAt = ro.updatedAt := by
  funext i
  rw [Registry.updatedAt, Roster.updatedAt, h.getElem?_tasks]

/-- A slot belongs to the account that owns it in the roster. -/
lemma ownerAt_eq (h : r.Spells ro) (i : Nat) : r.ownerAt i = ro.ownerAt i := by
  rw [Registry.ownerAt, Roster.ownerAt, h.getElem?_tasks]

/-- A fingerprint continues the slots that it continues in the roster. -/
lemma continuedBy_eq (h : r.Spells ro) (fp : Fingerprint) :
    r.continuedBy fp = ro.continuedBy fp := by
  funext i
  rw [Registry.continuedBy, Roster.continuedBy, h.getElem?_tasks]

/-- The slot that is continued is the one of the roster. -/
lemma matching?_eq (h : r.Spells ro) (owner : OwnerId) (fp : Fingerprint) :
    r.matching? owner fp = ro.matching? owner fp := by
  rw [Registry.matching?, Roster.matching?, h.slotsOf_eq, h.continuedBy_eq]

end Spells

/-- Keeping the better of two slots along a list leaves the first with the least time. -/
lemma oldest?_eq_minOn? (r : Registry) (slots : List Nat) :
    r.oldest? slots = slots.minOn? r.updatedAt := by
  cases slots with
  | nil => rfl
  | cons b slots =>
    have hstep : ∀ b i, (if r.updatedAt b ≤ r.updatedAt i then some b else some i) =
        some (minOn r.updatedAt b i) := fun b i => (apply_ite some _ b i).symm
    exact List.foldl_hom some hstep

/-- A slot that was touched last is left where it is, which is what relinking it would do. -/
lemma touch_eq {xs : List Nat} (h : r.recency.Spells r.recencyLinks xs) (i : Nat) :
    r.touch i = (r.unlinkRecency i).pushRecency i := by
  by_cases hlast : r.recency.last = some i
  · have hrelink := h.relink_last hlast
    rw [touch, if_pos hlast, pushRecency]
    simp only [unlinkRecency, hrelink]
  · rw [touch, if_neg hlast]

namespace Spells

/-- The choice only depends on the lists that the chains spell. -/
theorem choose_eq (h : r.Spells ro) (owner : OwnerId) (fp : Fingerprint) :
    r.choose owner fp = ro.choose owner fp := by
  have hown : r.ownVictim? owner = ro.ownVictim? owner := by
    rw [ownVictim?, Roster.ownVictim?, h.limits, (h.chainOf owner).length, h.slotsOf_eq,
      oldest?_eq_minOn?, h.updatedAt_eq]
  have hvictim : r.victim? = ro.victim? := by
    rw [victim?, Roster.victim?, h.limits, size, h.size_eq, h.recency.first]
  unfold choose Roster.choose
  rw [h.matching?_eq, hown, hvictim, size, h.size_eq]
  cases ro.matching? owner fp with
  | some i => rfl
  | none =>
    cases ro.ownVictim? owner with
    | some i => rfl
    | none =>
      cases ro.victim? with
      | some i => exact congrArg (Outcome.evictedLru i) (h.ownerAt_eq i)
      | none => rfl

/-! ## Tasks and recency -/

/-- Changing tasks without adding one. -/
lemma withTasks (h : r.Spells ro) (tasks : Array Task) (list : List Task)
    (ht : tasks.toList = list) (hl : list.length = ro.tasks.length) :
    Spells { r with tasks } { ro with tasks := list } := by
  have hs : tasks.size = r.tasks.size := by
    rw [h.size_eq, ← hl, ← ht, Array.length_toList]
  exact { h with
    tasks := ht
    size_recencyLinks := h.size_recencyLinks.trans hs.symm
    size_ownerLinks := h.size_ownerLinks.trans hs.symm }

/-- Overwriting a slot whose owner is that of the task makes it track the task. -/
lemma overwrite (h : r.Spells ro) {task : Task}
    (ht : (ro.tasks[i]?).map Task.owner = some task.owner) :
    (r.overwrite i task.name task.updatedAt task.fingerprint).Spells
      { ro with tasks := ro.tasks.set i task } := by
  refine h.withTasks _ _ ?_ (by simp)
  rw [Array.toList_modify, h.tasks]
  refine List.ext_getElem? fun j => ?_
  rw [List.getElem?_modify, List.getElem?_set]
  by_cases hij : i = j
  · subst hij
    obtain ⟨t, hget, howner⟩ := Option.map_eq_some_iff.1 ht
    obtain ⟨hlt, rfl⟩ := List.getElem?_eq_some_iff.1 hget
    simp [hlt, howner]
  · simp [hij]

/-- Taking a slot out of the recency chain. -/
lemma unlinkRecency (h : r.Spells ro) (hi : i ∈ ro.recency) :
    (r.unlinkRecency i).Spells { ro with recency := ro.recency.erase i } :=
  { h with
    size_recencyLinks := by simpa [Registry.unlinkRecency] using h.size_recencyLinks
    recency := h.recency.unlink hi }

/-- Putting a slot at the back of the recency chain. -/
lemma pushRecency (h : r.Spells ro) (hi : i ∉ ro.recency) (hlt : i < r.tasks.size) :
    (r.pushRecency i).Spells { ro with recency := ro.recency ++ [i] } :=
  { h with
    size_recencyLinks := by simpa [Registry.pushRecency] using h.size_recencyLinks
    recency := h.recency.pushBack hi (h.size_recencyLinks ▸ hlt) }

/-- Touching a slot moves it to the back of the recency chain, also if it is there already. -/
lemma touch (h : r.Spells ro) (hi : i ∈ ro.recency) (hlt : i < r.tasks.size) :
    (r.touch i).Spells { ro with recency := ro.recency.erase i ++ [i] } := by
  rw [touch_eq h.recency i]
  exact (h.unlinkRecency hi).pushRecency h.recency.nodup.not_mem_erase hlt

/-! ## Ownership -/

/-- Putting a slot that nobody owns at the end of an account's chain. -/
lemma assign (h : r.Spells ro) (owner : OwnerId) (hex : ro.Exclusive) (hi : ∀ o, i ∉ ro.slotsOf o)
    (hlt : i < r.tasks.size) : (r.assign owner i).Spells (ro.assign owner i) where
  limits := h.limits
  tasks := h.tasks
  size_recencyLinks := h.size_recencyLinks
  size_ownerLinks := by simpa [Registry.assign] using h.size_ownerLinks
  recency := h.recency
  chainOf := by
    intro o
    rw [Roster.slotsOf_assign, Registry.chainOf, getElem?_owners_assign]
    by_cases ho : o = owner
    · subst ho
      rw [if_pos rfl, if_pos rfl]
      exact (h.chainOf o).pushBack (hi o) (h.size_ownerLinks ▸ hlt)
    · rw [if_neg ho, if_neg ho]
      refine (h.chainOf o).of_neighbours_eq (by simp [Registry.assign]) fun j hj => ?_
      have hij : i ≠ j := by
        rintro rfl
        exact hi o hj
      exact (h.chainOf owner).neighbours_pushBack hij (fun hm => ho (hex o owner j hj hm))
        ((h.chainOf o).linked.lt_size j hj)
  isSome_owners := by
    intro o
    rw [getElem?_owners_assign, Roster.owned_assign]
    by_cases ho : o = owner
    · subst ho
      simp
    · simpa [ho] using h.isSome_owners o

/-- Taking a slot out of its owner's chain. -/
lemma release (h : r.Spells ro) (hex : ro.Exclusive) (hi : i ∈ ro.slotsOf owner) :
    (r.release owner i).Spells (ro.release owner i) := by
  have hunlink := (h.chainOf owner).unlink hi
  have hempty : (r.ownerLinks.unlink (r.chainOf owner) i).2.length = 0 ↔
      (ro.slotsOf owner).erase i = [] := by
    rw [hunlink.length, List.length_eq_zero_iff]
  refine ⟨h.limits, h.tasks, h.size_recencyLinks, ?_, h.recency, fun o => ?_, fun o => ?_⟩
  · simpa [Registry.release] using h.size_ownerLinks
  · rw [Roster.slotsOf_release, Registry.chainOf, getElem?_owners_release]
    by_cases ho : o = owner
    · subst ho
      rw [if_pos rfl, if_pos rfl]
      by_cases hnil : (ro.slotsOf o).erase i = []
      · rw [if_pos (hempty.2 hnil), hnil]
        exact Chain.spells_nil _
      · rw [if_neg (mt hempty.1 hnil)]
        exact hunlink
    · rw [if_neg ho, if_neg ho]
      refine (h.chainOf o).of_neighbours_eq (by simp [Registry.release]) fun j hj => ?_
      exact (h.chainOf owner).neighbours_unlink hi (fun hm => ho (hex o owner j hj hm))
        ((h.chainOf o).linked.lt_size j hj)
  · rw [getElem?_owners_release, Roster.owned_release]
    by_cases ho : o = owner
    · subst ho
      rw [if_pos rfl, Function.update_self]
      by_cases hnil : (ro.slotsOf o).erase i = []
      · rw [if_pos (hempty.2 hnil), if_pos hnil]
        rfl
      · rw [if_neg (mt hempty.1 hnil), if_neg hnil]
        rfl
    · rw [if_neg ho, Function.update_of_ne ho]
      exact h.isSome_owners o

/-! ## The outcomes -/

/-- A slot of the owner of a task tracks the task and is touched. -/
lemma track (h : r.Spells ro) (task : Task) (hi : i ∈ ro.recency) (hlt : i < r.tasks.size)
    (ht : (ro.tasks[i]?).map Task.owner = some task.owner) :
    ((r.overwrite i task.name task.updatedAt task.fingerprint).touch i).Spells
      (ro.track i task) :=
  (h.overwrite ht).touch hi (by simpa [Registry.overwrite] using hlt)

/-- A slot of another account is taken over: it leaves one chain, gets its new owner, and joins
the other chain, before it tracks the task and is touched. -/
lemma takeOver (h : r.Spells ro) (hv : ro.Valid) (task : Task) {source : OwnerId}
    (hi : i ∈ ro.slotsOf source) (hs : source ≠ task.owner) :
    (((r.transfer i source task.owner).overwrite i task.name task.updatedAt
      task.fingerprint).touch i).Spells (ro.takeOver i source task) := by
  have hlt := hv.lt_length hi
  have hex : ro.Exclusive := fun _ _ _ => hv.owner_unique
  have hrelease := h.release hex hi
  -- between the two chains the slot is nobody's
  have hfree : ∀ o, i ∉ (ro.release source i).slotsOf o := by
    intro o
    rw [Roster.slotsOf_release]
    split_ifs with ho
    · exact (hv.nodup_slotsOf source).not_mem_erase
    · exact fun hm => ho (hv.owner_unique hm hi)
  have hex' : (ro.release source i).Exclusive := by
    intro o o' j hj hj'
    rw [Roster.slotsOf_release] at hj hj'
    have hpart : ∀ p, (j ∈ if p = source then (ro.slotsOf source).erase i else ro.slotsOf p) →
        j ∈ ro.slotsOf p := by
      intro p hp
      split_ifs at hp with hps
      · exact hps ▸ List.mem_of_mem_erase hp
      · exact hp
    exact hex o o' j (hpart o hj) (hpart o' hj')
  have howner := hrelease.withTasks
    ((r.release source i).tasks.modify i fun t => { t with owner := task.owner })
    (ro.tasks.modify i fun t => { t with owner := task.owner })
    (by simp [hrelease.tasks]) (by simp)
  have hassign := howner.assign task.owner hex' hfree
    (by simpa [howner.size_eq] using hlt)
  have htrack := hassign.track task (hv.mem_recency.2 hlt)
    (by simpa [hassign.size_eq] using hlt) (by simp [hlt])
  have hset : (ro.tasks.modify i fun t => { t with owner := task.owner }).set i task =
      ro.tasks.set i task := by
    refine List.ext_getElem? fun j => ?_
    by_cases hij : i = j <;> simp [List.getElem?_set, hij]
  have hsame := congrArg (fun tasks => { ro.takeOver i source task with tasks }) hset
  rw [transfer, if_neg hs]
  exact (congrArg (Spells _) hsame).mp htrack

/-- A new slot for a task: the arena grows by one element, which joins the chain of its owner and
the recency chain. -/
lemma allocate (h : r.Spells ro) (hv : ro.Valid) (task : Task) :
    (r.allocate task).Spells (ro.allocate task) := by
  have hgrow : Spells
      { r with
        tasks := r.tasks.push task
        recencyLinks := r.recencyLinks.push {}
        ownerLinks := r.ownerLinks.push {} }
      { ro with tasks := ro.tasks ++ [task] } :=
    { h with
      tasks := by simp [h.tasks]
      size_recencyLinks := by simp [h.size_recencyLinks]
      size_ownerLinks := by simp [h.size_ownerLinks]
      recency := h.recency.of_neighbours_eq (by simp) fun j hj =>
        Links.neighbours_push _ _ _ (h.recency.linked.lt_size j hj)
      chainOf := fun o => (h.chainOf o).of_neighbours_eq (by simp) fun j hj =>
        Links.neighbours_push _ _ _ ((h.chainOf o).linked.lt_size j hj) }
  have hsize : r.size = ro.tasks.length := h.size_eq
  have hassign := hgrow.assign task.owner (i := r.size)
    (fun _ _ _ => hv.owner_unique) (fun o => hsize ▸ hv.length_notMem_slotsOf) (by simp [size])
  have hpush := hassign.pushRecency (i := r.size)
    (fun hm => absurd (hv.mem_recency.1 hm) (by omega)) (by simp [size, Registry.assign])
  rw [hsize] at hpush
  rw [Registry.allocate, hsize]
  exact hpush

/-- **One call**: recording the same task on a registry and on the roster that it spells gives
the same outcome, and the registry spells the roster again.

**Proof sketch.** The choice is the same (`choose_eq`).  A slot of the owner is tracked at once,
one of another account is taken over first, and a new one is allocated. -/
theorem recordFingerprint (h : r.Spells ro) (hv : ro.Valid) (owner : OwnerId) (name : String)
    (fp : Fingerprint) (now : Int) :
    (r.recordFingerprint owner name fp now).1.Spells (ro.recordFingerprint owner name fp now).1 ∧
      (r.recordFingerprint owner name fp now).2 = (ro.recordFingerprint owner name fp now).2 := by
  set task : Task := { owner, name, updatedAt := now, fingerprint := fp } with htask
  have hown : ∀ i ∈ ro.slotsOf owner, ((r.overwrite i name now fp).touch i).Spells
      (ro.track i task) := fun i hi => by
    have hlt := hv.lt_length hi
    exact h.track task (hv.mem_recency.2 hlt) (h.size_eq ▸ hlt)
      ((hv.mem_slotsOf _ _).1 hi)
  have hc := hv.chooses_choose owner fp
  simp only [Registry.recordFingerprint, Roster.recordFingerprint, h.choose_eq, and_true]
  generalize ro.choose owner fp = outcome at hc ⊢
  cases hc with
  | continued hmatch => exact hown _ (List.mem_of_find?_eq_some hmatch)
  | replacedOwnOldest _ _ holdest => exact hown _ (List.minOn?_mem holdest)
  | @evictedLru i _ _ _ hleast =>
    have hi := hv.mem_slotsOf_ownerAt (hv.mem_recency.1 (List.mem_of_head? hleast))
    simp only [Registry.apply, Roster.apply]
    by_cases ho : ro.ownerAt i = owner
    · rw [transfer, if_pos ho, if_pos ho]
      rw [ho] at hi
      exact hown i hi
    · rw [if_neg ho]
      exact h.takeOver hv task hi ho
  | allocated => exact h.allocate hv task

/-- The slot that a call returns is the last of the recency chain. -/
lemma last_recordFingerprint (h : r.Spells ro) (hv : ro.Valid) (owner : OwnerId) (name : String)
    (fp : Fingerprint) (now : Int) :
    (r.recordFingerprint owner name fp now).1.recency.last =
      some (r.recordFingerprint owner name fp now).2.slot := by
  obtain ⟨hspells, houtcome⟩ := h.recordFingerprint hv owner name fp now
  have hrec := (hv.recorded_and_valid owner name fp now).1
  rw [hspells.recency.last, hrec.recency, List.getLast?_append, houtcome]
  rfl

end Spells

/-- Every run keeps a registry spelling the roster of the same run, with the same outcomes.

**Proof sketch.** Induction on the calls; the roster stays valid along the way. -/
lemma Spells.run (h : r.Spells ro) (hv : ro.Valid) (calls : List Call) :
    (r.run calls).1.Spells (ro.run calls).1 ∧ (r.run calls).2 = (ro.run calls).2 := by
  induction calls generalizing r ro with
  | nil => exact ⟨h, rfl⟩
  | cons c calls ih =>
    obtain ⟨hstep, houtcome⟩ :=
      h.recordFingerprint hv c.owner c.name (Fingerprint.compute c.payload) c.now
    obtain ⟨hrun, houtcomes⟩ := ih hstep (hv.record c)
    exact ⟨hrun, congrArg₂ List.cons houtcome houtcomes⟩

/-- The registry reached by a run spells the roster reached by it. -/
lemma spells_run (limits : Limits) (calls : List Call) :
    ((empty limits).run calls).1.Spells ((Roster.empty limits).run calls).1 :=
  ((spells_empty limits).run (Roster.valid_empty limits) calls).1

/-- **Chains refine lists**: whatever the limits and the calls, the registry stands for the
roster that the same calls make of plain lists, and every call has the same outcome.

**Proof sketch.** The empty registry spells the empty roster, each call keeps that so
(`Spells.recordFingerprint`), and a registry stands for the roster that it spells. -/
theorem roster_run (limits : Limits) (calls : List Call) :
    Prod.map roster id ((empty limits).run calls) = (Roster.empty limits).run calls := by
  obtain ⟨hspells, houtcomes⟩ := (spells_empty limits).run (Roster.valid_empty limits) calls
  exact Prod.ext hspells.roster_eq houtcomes

end Registry

end InFlight
