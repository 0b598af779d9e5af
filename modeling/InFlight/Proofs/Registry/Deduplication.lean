import InFlight.Proofs.Registry.Idempotence

/-!
# How many slots carry a fingerprint

Right after a call the returned slot carries the fingerprint of the payload.  Besides it, those
slots of the account carry it that did so before: recording takes the first slot that the payload
continues, and this need not be the one that carries the fingerprint.  So the fingerprint is
carried once exactly when each slot that carried it before was the first to continue.

## Main definitions

* `InFlight.Registry.carriers` — the slots of an account that carry a fingerprint.
* `InFlight.Roster.Single` — at most one slot carries the fingerprint, and no slot with another
  fingerprint continues with it.

## Main results

* `InFlight.Registry.carriers_record` — the carriers after a call, and when there is only one.
* `InFlight.Registry.not_carried_once` — a growing payload that is seen at an earlier size in
  between leaves two carriers.
-/

set_option relaxedAutoImplicit false
set_option autoImplicit false

namespace InFlight

namespace Roster

variable {r r' : Roster} {owner o : OwnerId} {fp : Fingerprint} {i j : Nat} {task : Task}

/-- The slots of an account that carry a fingerprint. -/
def carriers (r : Roster) (owner : OwnerId) (fp : Fingerprint) : List Nat :=
  (r.slotsOf owner).filter fun i => (r.tasks[i]?).map Task.fingerprint = some fp

/-- The carriers are the slots of the account with the fingerprint. -/
lemma mem_carriers : i ∈ r.carriers owner fp ↔
    i ∈ r.slotsOf owner ∧ (r.tasks[i]?).map Task.fingerprint = some fp := by
  simp [carriers]

/-- A slot continues with the fingerprint that it carries. -/
lemma continuedBy_of_mem_carriers (hi : i ∈ r.carriers owner fp) : r.continuedBy fp i = true := by
  obtain ⟨t, ht, rfl⟩ := Option.map_eq_some_iff.1 (mem_carriers.1 hi).2
  rw [continuedBy, ht]
  exact Fingerprint.continues_self t.fingerprint

/-- A carrier is the slot chosen exactly when it is the first to continue: as it continues, the
choice is a slot that continues. -/
lemma slot_choose_eq_iff (hj : j ∈ r.carriers owner fp) :
    (r.choose owner fp).slot = j ↔ r.matching? owner fp = some j := by
  have hslot := (mem_carriers.1 hj).1
  have hcont := continuedBy_of_mem_carriers hj
  cases hmatch : r.matching? owner fp with
  | none => exact absurd hcont (List.find?_eq_none.1 hmatch j hslot)
  | some i =>
    have hchoose : r.choose owner fp = .continued i := by rw [choose, hmatch]
    rw [hchoose, Option.some.injEq]
    rfl

/-! ## One call -/

/-- No slot is listed twice as a carrier. -/
lemma Valid.nodup_carriers (h : r.Valid) : (r.carriers owner fp).Nodup :=
  (h.nodup_slotsOf owner).filter _

namespace Recorded

/-- The chosen slot carries the fingerprint of the task, for the owner of the task. -/
lemma self_mem_carriers (h : Recorded r r' i task) :
    i ∈ r'.carriers o fp ↔ o = task.owner ∧ task.fingerprint = fp := by
  rw [mem_carriers, h.mem_slotsOf, h.getElem?_self, Option.map_some, Option.some.injEq]

/-- Apart from the chosen slot the carriers of a fingerprint are the same. -/
lemma erase_carriers (h : Recorded r r' i task) (hv : r.Valid) (hv' : r'.Valid) :
    (r'.carriers o fp).erase i = (r.carriers o fp).erase i := by
  have hfilter : ∀ {q : Roster}, q.Valid → (q.carriers o fp).erase i =
      ((q.slotsOf o).erase i).filter fun j => (q.tasks[j]?).map Task.fingerprint = some fp := by
    intro q hq
    rw [hq.nodup_carriers.erase_eq_filter, (hq.nodup_slotsOf o).erase_eq_filter, carriers,
      List.filter_filter, List.filter_filter]
    simp only [Bool.and_comm]
  rw [hfilter hv, hfilter hv', h.erase_slotsOf]
  refine List.filter_congr fun j hj => ?_
  have hne : j ≠ i := by
    rintro rfl
    exact (hv.nodup_slotsOf o).not_mem_erase hj
  rw [h.getElem?_of_ne j hne]

/-- A slot other than the one chosen carries what it carried. -/
lemma mem_carriers_of_ne (h : Recorded r r' i task) (hv : r.Valid) (hv' : r'.Valid)
    (hj : j ≠ i) : j ∈ r'.carriers o fp ↔ j ∈ r.carriers o fp := by
  rw [← List.mem_erase_of_ne hj, h.erase_carriers hv hv', List.mem_erase_of_ne hj]

/-- The owner of the task has the carriers it had, and the chosen slot. -/
lemma carriers_perm (h : Recorded r r' i task) (hv : r.Valid) (hv' : r'.Valid) :
    (r'.carriers task.owner task.fingerprint).Perm
      (i :: (r.carriers task.owner task.fingerprint).erase i) := by
  rw [← h.erase_carriers hv hv']
  exact List.perm_cons_erase (h.self_mem_carriers.2 ⟨rfl, rfl⟩)

/-- The chosen slot is the only carrier when it was the only one that could be before. -/
lemma length_carriers_eq_one_iff (h : Recorded r r' i task) (hv : r.Valid) (hv' : r'.Valid) :
    (r'.carriers task.owner task.fingerprint).length = 1 ↔
      ∀ j ∈ r.carriers task.owner task.fingerprint, i = j := by
  rw [(h.carriers_perm hv hv').length_eq, List.length_cons, Nat.add_eq_right,
    List.length_eq_zero_iff, List.eq_nil_iff_forall_not_mem]
  simp only [hv.nodup_carriers.mem_erase_iff, not_and', ne_eq, not_not, eq_comm]

end Recorded

/-! ## At most one carrier -/

/-- At most one slot of the account carries the fingerprint, and a slot of the account that
continues with it carries it. -/
structure Single (r : Roster) (owner : OwnerId) (fp : Fingerprint) : Prop where
  unique : ∀ i ∈ r.carriers owner fp, ∀ j ∈ r.carriers owner fp, i = j
  carries : ∀ i ∈ r.slotsOf owner, r.continuedBy fp i = true → i ∈ r.carriers owner fp

namespace Single

/-- Before any call nothing is carried twice. -/
lemma empty (limits : Limits) : (Roster.empty limits).Single owner fp where
  unique := by simp [carriers]
  carries := by simp

/-- The carrier is the first slot to continue. -/
lemma matching?_eq (h : r.Single owner fp) (hj : j ∈ r.carriers owner fp) :
    r.matching? owner fp = some j := by
  obtain ⟨hslot, -⟩ := mem_carriers.1 hj
  refine find?_eq_some_of_unique hslot (continuedBy_of_mem_carriers hj) fun k hk hcont => ?_
  exact h.unique k (h.carries k hk hcont) j hj

/-- A call keeps a fingerprint on at most one slot, unless it records a payload with another
fingerprint that the fingerprint continues.

**Proof sketch.** If the call records the fingerprint itself, it chooses the carrier, if there is
one.  Otherwise the chosen slot neither carries the fingerprint nor continues with it. -/
lemma record (h : r.Single owner fp) (hv : r.Valid) (c : Call)
    (hc : c.owner = owner → c.task.fingerprint.continues fp = true → c.task.fingerprint = fp) :
    (r.record c.owner c.name c.payload c.now).1.Single owner fp := by
  have hrec := hv.recorded_record c
  have hv' := hv.record c
  set r' := (r.record c.owner c.name c.payload c.now).1
  set i := (r.record c.owner c.name c.payload c.now).2.slot
  have hother : ∀ j, j ≠ i → (j ∈ r'.carriers owner fp ↔ j ∈ r.carriers owner fp) :=
    fun _ => hrec.mem_carriers_of_ne hv hv'
  -- a call that makes its slot a carrier has chosen the carrier
  have hchosen : i ∈ r'.carriers owner fp → ∀ j ∈ r.carriers owner fp, j = i := by
    intro hmem j hj
    obtain ⟨rfl, rfl⟩ := hrec.self_mem_carriers.1 hmem
    exact ((slot_choose_eq_iff hj).2 (h.matching?_eq hj)).symm
  constructor
  · by_cases hmem : i ∈ r'.carriers owner fp
    · have hall : ∀ j ∈ r'.carriers owner fp, j = i := fun j hj => by
        by_contra hne
        exact hne (hchosen hmem j ((hother j hne).1 hj))
      intro j hj k hk
      rw [hall j hj, hall k hk]
    · have hne : ∀ j ∈ r'.carriers owner fp, j ≠ i := fun j hj hji => hmem (hji ▸ hj)
      intro j hj k hk
      exact h.unique j ((hother j (hne j hj)).1 hj) k ((hother k (hne k hk)).1 hk)
  · intro j hj hcont
    by_cases hji : j = i
    · subst hji
      have howner := (hrec.mem_slotsOf owner).1 hj
      rw [hrec.continuedBy_self] at hcont
      exact hrec.self_mem_carriers.2 ⟨howner, hc howner.symm hcont⟩
    · rw [hrec.mem_slotsOf_of_ne hji] at hj
      rw [hrec.continuedBy_of_ne hji] at hcont
      exact (hother j hji).2 (h.carries j hj hcont)

/-- A run keeps a fingerprint on at most one slot, unless one of its calls for the account records
a payload with another fingerprint that the fingerprint continues. -/
lemma run (h : r.Single owner fp) (hv : r.Valid) (calls : List Call)
    (hcalls : ∀ c ∈ calls, c.owner = owner → c.task.fingerprint.continues fp = true →
      c.task.fingerprint = fp) : (r.run calls).1.Single owner fp := by
  induction calls generalizing r with
  | nil => exact h
  | cons c calls ih =>
    rw [List.forall_mem_cons] at hcalls
    exact ih (h.record hv c hcalls.1) (hv.record c) hcalls.2

end Single

/-- Two slots of an account come to carry the same fingerprint: the first slot does not continue
with the payload `g`, until it is overwritten with `h`. -/
lemma carriers_run_polls {f g h : ByteArray}
    (hfg : (Fingerprint.compute f).continues (Fingerprint.compute g) = false)
    (hfh : (Fingerprint.compute f).continues (Fingerprint.compute h) = true)
    (hhg : (Fingerprint.compute h).continues (Fingerprint.compute g) = true) :
    (((empty {}).run [⟨1, "a", f, 1⟩, ⟨1, "a", g, 2⟩, ⟨1, "a", h, 3⟩]).1.record 1 "a"
      g 4).1.carriers 1 (Fingerprint.compute g) = [0, 1] := by
  simp [run, record, recordFingerprint, choose, matching?, ownVictim?, victim?, apply, allocate,
    assign, track, continuedBy, carriers, slotsOf, empty, Limits.clamped, hfg, hfh, hhg]

end Roster

namespace Registry

variable {r : Registry} {ro : Roster}

/-! ## The carriers after a call -/

/-- The slots of an account that carry a fingerprint. -/
def carriers (r : Registry) (owner : OwnerId) (fp : Fingerprint) : List Nat :=
  (r.slotsOf owner).filter fun i => (r.tasks[i]?).map Task.fingerprint = some fp

/-- The carriers are those of the roster. -/
lemma Spells.carriers_eq (h : r.Spells ro) (owner : OwnerId) (fp : Fingerprint) :
    r.carriers owner fp = ro.carriers owner fp := by
  simp only [Registry.carriers, Roster.carriers, h.slotsOf_eq, h.getElem?_tasks]

/-- One call on a registry that spells a valid roster: the carriers of the fingerprint that it
records, and when there is only one. -/
lemma Spells.carriers_recordFingerprint (h : r.Spells ro) (hv : ro.Valid) (owner : OwnerId)
    (name : String) (fp : Fingerprint) (now : Int) :
    ((r.recordFingerprint owner name fp now).1.carriers owner fp).Perm
        ((r.recordFingerprint owner name fp now).2.slot ::
          (r.carriers owner fp).erase (r.recordFingerprint owner name fp now).2.slot) ∧
      (((r.recordFingerprint owner name fp now).1.carriers owner fp).length = 1 ↔
        ∀ j ∈ r.carriers owner fp, r.matching? owner fp = some j) := by
  obtain ⟨hspells, houtcome⟩ := h.recordFingerprint hv owner name fp now
  obtain ⟨hrec, hv'⟩ := hv.recorded_and_valid owner name fp now
  rw [hspells.carriers_eq, h.carriers_eq, h.matching?_eq, houtcome]
  refine ⟨hrec.carriers_perm hv hv', ?_⟩
  refine (hrec.length_carriers_eq_one_iff hv hv').trans (forall₂_congr fun j hj => ?_)
  exact Roster.slot_choose_eq_iff hj

/-! ## A growing payload -/

/-- The payload of `n` letters a. -/
def letters (n : Nat) : ByteArray := ByteArray.mk (Array.replicate n 97)

/-- So many letters have that size. -/
@[simp]
lemma size_letters (n : Nat) : (letters n).size = n := by simp [letters, ByteArray.size]

/-- Letters begin with fewer letters. -/
lemma extract_letters {k n : Nat} (h : k ≤ n) : (letters n).extract 0 k = letters k := by
  ext1
  simp [letters, h]

/-- Letters continue other letters when a level that both cover is fine enough to be compared. -/
lemma continues_letters {m n : Nat} {l : Fin 6} (hm : Fingerprint.Covers m l)
    (hn : Fingerprint.Covers n l)
    (hfine : (Fingerprint.maxLevelOf n).val < l.val + Fingerprint.matchDepth) :
    (Fingerprint.compute (letters m)).continues (Fingerprint.compute (letters n)) = true := by
  refine (Fingerprint.continues_iff _ _).2 ⟨l, Fingerprint.agrees_of_extract_eq ?_ ?_ ?_ ?_⟩
  · rwa [size_letters]
  · rw [size_letters]
    exact hm.le_maxLevelOf
  · rw [size_letters]
    exact hn.le_maxLevelOf
  · rw [extract_letters hm, extract_letters hn]

/-- Letters that cover only levels too coarse to be compared are not continued by other letters. -/
lemma not_continues_letters_of {m n : Nat}
    (h : (Fingerprint.maxLevelOf m).val + Fingerprint.matchDepth ≤
      (Fingerprint.maxLevelOf n).val) :
    (Fingerprint.compute (letters m)).continues (Fingerprint.compute (letters n)) = false := by
  refine Fingerprint.continues_eq_false ?_
  simpa only [Fingerprint.compute, size_letters] using h

/-- Eight letters are too few to be continued by 512. -/
lemma not_continues_letters :
    (Fingerprint.compute (letters 8)).continues (Fingerprint.compute (letters 512)) = false :=
  not_continues_letters_of (by decide)

/-! ## Every run -/

/-- **The carriers of a fingerprint after it is recorded**, in every reached registry, are the
returned slot and the carriers that there were before.  So there is one only exactly when each of
those before was the first slot that the payload continues.  That is the case after every run in
which the account recorded no payload with another fingerprint that this payload continues.

**Proof sketch.** The first two parts are about one call (`Spells.carriers_recordFingerprint`).
For the third, such a run keeps the fingerprint on at most one slot, which is the only one to
continue (`Roster.Single.run`). -/
theorem carriers_record (limits : Limits) (calls : List Call) (owner : OwnerId) (name : String)
    (payload : ByteArray) (now : Int) :
    let r := ((empty limits).run calls).1
    let fp := Fingerprint.compute payload
    let next := r.record owner name payload now
    (next.1.carriers owner fp).Perm (next.2.slot :: (r.carriers owner fp).erase next.2.slot) ∧
      ((next.1.carriers owner fp).length = 1 ↔
        ∀ j ∈ r.carriers owner fp, r.matching? owner fp = some j) ∧
      ((∀ c ∈ calls, c.owner = owner → (Fingerprint.compute c.payload).continues fp = true →
          Fingerprint.compute c.payload = fp) → (next.1.carriers owner fp).length = 1) := by
  intro r fp next
  have hspells : r.Spells ((Roster.empty limits).run calls).1 := spells_run limits calls
  obtain ⟨hperm, hiff⟩ := hspells.carriers_recordFingerprint (Roster.valid_run limits calls)
    owner name fp now
  refine ⟨hperm, hiff, fun hcalls => hiff.2 fun j hj => ?_⟩
  have hsingle := (Roster.Single.empty limits).run (Roster.valid_empty limits) calls hcalls
  rw [hspells.carriers_eq] at hj
  rw [hspells.matching?_eq]
  exact hsingle.matching?_eq hj

/-- The last part of the theorem applies when 512 letters are recorded again after eight, which
have overwritten them: the first slot is too short to be continued. -/
theorem carried_once_letters :
    ((((empty {}).run [⟨1, "a", letters 512, 1⟩, ⟨1, "a", letters 8, 2⟩]).1.record 1 "a"
      (letters 512) 3).1.carriers 1 (Fingerprint.compute (letters 512))).length = 1 := by
  refine (carriers_record {} _ 1 "a" (letters 512) 3).2.2 ?_
  simp only [List.forall_mem_cons, not_continues_letters]
  simp

/-- Eight letters and 512 are on two slots, 64 letters continue the first of them, and from then on
512 letters do so as well, although the second slot carries their fingerprint. -/
lemma carriers_letters :
    (((empty {}).run [⟨1, "a", letters 8, 1⟩, ⟨1, "a", letters 512, 2⟩,
      ⟨1, "a", letters 64, 3⟩]).1.record 1 "a" (letters 512) 4).1.carriers 1
        (Fingerprint.compute (letters 512)) = [0, 1] := by
  have hfirst := continues_letters (m := 8) (n := 64) (l := 0) (by decide) (by decide) (by decide)
  have hthen := continues_letters (m := 64) (n := 512) (l := 1) (by decide) (by decide) (by decide)
  obtain ⟨hspells, -⟩ := (spells_run {} _).recordFingerprint (Roster.valid_run {} _)
    1 "a" (Fingerprint.compute (letters 512)) 4
  exact (hspells.carriers_eq _ _).trans
    (Roster.carriers_run_polls not_continues_letters hfirst hthen)

/-- **The carrier need not be the only one**: it is not true that exactly one slot of the account
carries the fingerprint after every call. -/
theorem not_carried_once :
    ¬ ∀ (limits : Limits) (calls : List Call) (owner : OwnerId) (name : String)
      (payload : ByteArray) (now : Int), 0 < owner → (∀ c ∈ calls, 0 < c.owner) →
      ((((empty limits).run calls).1.record owner name payload now).1.carriers owner
        (Fingerprint.compute payload)).length = 1 := by
  intro h
  have htwo := congrArg List.length carriers_letters
  have hone := htwo.symm.trans (h {} _ 1 "a" (letters 512) 4 (by decide) (by simp))
  exact absurd hone (by decide)

end Registry

end InFlight
