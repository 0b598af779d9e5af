import InFlight.Proofs.Audit.Sweep
import InFlight.Proofs.Registry.Deduplication

/-!
# The window of a record

A record of the history says how many slots an account had in a window, and how long that window
was.  A sweep counts in the window that its request gets, which is never longer than an hour and
never empty, but the record names the window that was asked for.  The two are the same for windows
from one second to an hour.  For any other window a record is right by chance only: when no slot of
its account was touched between the beginnings of the two windows.

## Main definitions

* `InFlight.Audit.Record.Consistent` — a record counts the slots in the window that it names.
* `InFlight.Audit.writtenBy` — the records that a sweep writes.

## Main results

* `InFlight.Registry.activeCount_eq_iff` — when an account has as many slots in two windows.
* `InFlight.Audit.mem_writtenBy` — what a record of a sweep says.
* `InFlight.Audit.consistent_iff_of_sweep` — when a record of a sweep is consistent.
* `InFlight.Audit.not_consistent_sweep` — a record of a sweep that is not.
-/

set_option relaxedAutoImplicit false
set_option autoImplicit false

namespace InFlight

namespace Registry

variable {r : Registry} {cutoff cutoff' : Int} {o : OwnerId}

/-- Of two windows the longer one holds as many slots of an account only if it holds no others. -/
lemma activeCount_eq_iff_of_le (h : cutoff ≤ cutoff') :
    r.activeCount cutoff o = r.activeCount cutoff' o ↔
      ∀ t ∈ r.tasks.toList, t.owner = o → cutoff ≤ t.updatedAt → cutoff' ≤ t.updatedAt := by
  have hsub : (r.tasks.toList.filter fun t => t.owner = o ∧ cutoff' ≤ t.updatedAt).Sublist
      (r.tasks.toList.filter fun t => t.owner = o ∧ cutoff ≤ t.updatedAt) := by
    refine List.monotone_filter_right _ fun t ht => ?_
    simp only [decide_eq_true_eq] at ht ⊢
    exact ⟨ht.1, h.trans ht.2⟩
  constructor
  · intro heq t ht howner hactive
    rw [activeCount, activeCount, List.countP_eq_length_filter, List.countP_eq_length_filter] at heq
    have hmem : t ∈ r.tasks.toList.filter fun t => t.owner = o ∧ cutoff ≤ t.updatedAt :=
      List.mem_filter.2 ⟨ht, decide_eq_true ⟨howner, hactive⟩⟩
    rw [← hsub.eq_of_length heq.symm, List.mem_filter, decide_eq_true_eq] at hmem
    exact hmem.2.2
  · intro hall
    refine List.countP_congr fun t ht => ?_
    simp only [decide_eq_true_eq]
    exact and_congr_right fun howner => ⟨hall t ht howner, h.trans⟩

/-- **An account has as many slots in two windows** exactly if it has the same ones in both. -/
theorem activeCount_eq_iff : r.activeCount cutoff o = r.activeCount cutoff' o ↔
    ∀ t ∈ r.tasks.toList, t.owner = o → (cutoff ≤ t.updatedAt ↔ cutoff' ≤ t.updatedAt) := by
  rcases Int.le_total cutoff cutoff' with h | h
  · rw [activeCount_eq_iff_of_le h]
    exact forall₃_congr fun t _ _ => ⟨fun hlonger => ⟨hlonger, h.trans⟩, Iff.mp⟩
  · rw [eq_comm, activeCount_eq_iff_of_le h]
    exact forall₃_congr fun t _ _ => ⟨fun hlonger => ⟨h.trans, hlonger⟩, Iff.mpr⟩

/-- An account records two payloads of which the second does not continue the first: both have a
slot, and each of these is in the windows that begin no later. -/
lemma activeCount_run_two_payloads {f g : ByteArray}
    (hfg : (Fingerprint.compute f).continues (Fingerprint.compute g) = false) (now now' : Int) :
    let r := ((empty ⟨2, 2⟩).run [⟨1, "a", f, now⟩, ⟨1, "a", g, now'⟩]).1
    r.size = 2 ∧ ∀ cutoff, r.activeCount cutoff 1 =
      (if cutoff ≤ now' then 1 else 0) + if cutoff ≤ now then 1 else 0 := by
  intro r
  have htasks : r.tasks.toList =
      [⟨1, "a", now, Fingerprint.compute f⟩, ⟨1, "a", now', Fingerprint.compute g⟩] :=
    tasks_run_pair (by decide) fun _ => ⟨by decide, hfg⟩
  rw [size, ← Array.length_toList, htasks]
  refine ⟨rfl, fun cutoff => ?_⟩
  simp only [activeCount, htasks, List.countP_cons, List.countP_nil, Nat.zero_add, true_and,
    decide_eq_true_eq]

end Registry

namespace Audit

/-- A record counts the slots that its account has in the window that it names, which ends with the
record. -/
def Record.Consistent (registry : Registry) (r : Record) : Prop :=
  r.activeSlots = registry.activeCount (r.createdAt - r.windowSecs) r.owner

section Sweep

variable (isAdmin : OwnerId → Bool) (registry : Registry) (store : Store)
  (settings : SweepSettings) (now : Int)

/-- The records that a sweep writes: those behind the ones that the store held. -/
def writtenBy : List Record :=
  (sweepPlain isAdmin registry store settings now).1.backend.records.drop
    store.backend.records.length

variable (hsize : registry.size < 0x10000000000000000)

include hsize

/-- A sweep writes a record for every row that it may write, in ranking order. -/
lemma writtenBy_eq : writtenBy isAdmin registry store settings now =
    numbered (store.backend.lastId + 1)
      ((writtenRows isAdmin store (candidates registry settings now)).map
        (recordOf settings now)) := by
  have hrecords := (swept_plain isAdmin settings now registry store hsize).records
  rw [writtenBy, sweepPlain, hrecords, List.drop_left]

/-- **What a record of a sweep says**: its account is no administrator and not refused, reaches the
threshold in the window that the request gets, and is recorded with its count there, under the
window that was asked for. -/
theorem mem_writtenBy {r : Record} (h : r ∈ writtenBy isAdmin registry store settings now) :
    (isAdmin r.owner = false ∧ store.refuses r.owner = false) ∧
      r.owner ∈ registry.reaching (now - Ranking.effectiveWindow settings.windowSecs)
        settings.threshold ∧
      r.createdAt = now ∧ r.windowSecs = settings.windowSecs ∧
      r.activeSlots =
        registry.activeCount (now - Ranking.effectiveWindow settings.windowSecs) r.owner := by
  rw [writtenBy_eq isAdmin registry store settings now hsize] at h
  obtain ⟨k, r', hr', rfl⟩ := mem_numbered.1 h
  obtain ⟨row, hrow, rfl⟩ := List.mem_map.1 (List.mem_of_getElem? hr')
  obtain ⟨hcandidate, hwritten⟩ := List.mem_filter.1 hrow
  rw [Bool.and_eq_true, Bool.not_eq_true', Bool.not_eq_true'] at hwritten
  have hactive := (registry.ranked_rank settings.windowSecs now).activeSlots row
    (List.mem_of_mem_filter hcandidate)
  have hreaching := (registry.mem_owners_highActive settings.windowSecs settings.threshold now).1
    (List.mem_map_of_mem hcandidate)
  exact ⟨hwritten, hreaching, rfl, rfl, hactive⟩

/-- There is a record of every account that reaches the threshold and is neither an administrator
nor refused. -/
lemma exists_mem_writtenBy {o : OwnerId} (hadmin : isAdmin o = false)
    (hrefuses : store.refuses o = false)
    (ho : o ∈ registry.reaching (now - Ranking.effectiveWindow settings.windowSecs)
      settings.threshold) :
    ∃ r ∈ writtenBy isAdmin registry store settings now, r.owner = o := by
  have howner : o ∈ (candidates registry settings now).map Ranking.Row.owner :=
    (registry.mem_owners_highActive settings.windowSecs settings.threshold now).2 ho
  obtain ⟨row, hrow, rfl⟩ :=
    List.mem_map.1 (mem_owners_writtenRows.2 ⟨howner, hadmin, hrefuses⟩)
  obtain ⟨k, hk⟩ :=
    List.mem_iff_getElem?.1 (List.mem_map_of_mem (f := recordOf settings now) hrow)
  rw [writtenBy_eq isAdmin registry store settings now hsize]
  exact ⟨{ recordOf settings now row with id := _ }, mem_numbered.2 ⟨k, _, hk, rfl⟩, rfl⟩

/-- **When the records of a sweep are consistent**, for every registry, test for administrators,
store, settings and time.  Each of them counts the slots of its account in the window that a request
for the window named gets.  So it counts those in the window named exactly if no slot of the account
is in one of these windows alone; and this is so for all of them if the window named is from one
second to an hour long, since a request gets exactly these windows as it asks for them.

**Proof sketch.** The record of a candidate has the count of its row in the ranking
(`mem_writtenBy`), and two windows that end together hold as many slots of an account only if they
hold the same ones (`Registry.activeCount_eq_iff`). -/
theorem consistent_iff_of_sweep :
    let window := settings.windowSecs
    let written := writtenBy isAdmin registry store settings now
    (sweepPlain isAdmin registry store settings now).1.backend.records =
        store.backend.records ++ written ∧
      (∀ r ∈ written, r.createdAt = now ∧ r.windowSecs = window ∧
        r.activeSlots = registry.activeCount (now - Ranking.effectiveWindow window) r.owner ∧
        (r.Consistent registry ↔ ∀ t ∈ registry.tasks.toList, t.owner = r.owner →
          (now - Ranking.effectiveWindow window ≤ t.updatedAt ↔ now - window ≤ t.updatedAt))) ∧
      (Ranking.effectiveWindow window = window ↔ 0 < window ∧ window ≤ 3600) ∧
      (0 < window → window ≤ 3600 → ∀ r ∈ written, r.Consistent registry) := by
  intro window written
  have hrecords := (swept_plain isAdmin settings now registry store hsize).records
  have hcount : ∀ r ∈ written, r.createdAt = now ∧ r.windowSecs = window ∧
      r.activeSlots = registry.activeCount (now - Ranking.effectiveWindow window) r.owner :=
    fun r hr => (mem_writtenBy isAdmin registry store settings now hsize hr).2.2
  have hfits : Ranking.effectiveWindow window = window ↔ 0 < window ∧ window ≤ 3600 :=
    Ranking.effectiveWindow_eq_self_iff
  refine ⟨?_, fun r hr => ?_, hfits, fun hpos hle r hr => ?_⟩
  · rw [show written = _ from writtenBy_eq isAdmin registry store settings now hsize]
    exact hrecords
  · obtain ⟨hnow, hwindow, hactive⟩ := hcount r hr
    refine ⟨hnow, hwindow, hactive, ?_⟩
    rw [Record.Consistent, hnow, hwindow, hactive, Registry.activeCount_eq_iff]
  · obtain ⟨hnow, hwindow, hactive⟩ := hcount r hr
    rw [Record.Consistent, hnow, hwindow, hactive, hfits.2 ⟨hpos, hle⟩]

end Sweep

/-- An account has one slot that was touched when a sweep over an hour comes, and one that was
touched before that hour.  The record of the account is consistent. -/
theorem consistent_iff_of_sweep_hour :
    let registry := ((Registry.empty ⟨2, 2⟩).run
      [⟨1, "a", Registry.letters 8, 0⟩, ⟨1, "a", Registry.letters 512, 5000⟩]).1
    let settings : SweepSettings := { windowSecs := 3600, threshold := 1 }
    let written := writtenBy (fun _ => false) registry {} settings 5000
    registry.size < 0x10000000000000000 ∧ 0 < settings.windowSecs ∧ settings.windowSecs ≤ 3600 ∧
      ∃ r ∈ written, r.activeSlots = 1 ∧ r.windowSecs = 3600 ∧ r.Consistent registry := by
  intro registry settings written
  obtain ⟨htwo, hcount⟩ :=
    Registry.activeCount_run_two_payloads Registry.not_continues_letters 0 5000
  have hsize : registry.size < 0x10000000000000000 := by
    rw [show registry.size = 2 from htwo]
    decide
  have hreaching : 1 ∈ registry.reaching 1400 1 := by
    rw [Registry.mem_reaching, show registry.activeCount 1400 1 = 1 from hcount 1400]
    exact ⟨le_rfl, le_rfl⟩
  obtain ⟨-, hall, -, hconsistent⟩ :=
    consistent_iff_of_sweep (fun _ => false) registry {} settings 5000 hsize
  obtain ⟨r, hr, howner⟩ :=
    exists_mem_writtenBy (fun _ => false) registry {} settings 5000 hsize rfl rfl hreaching
  obtain ⟨-, hwindow, hactive, -⟩ := hall r hr
  refine ⟨hsize, by decide, by decide, r, hr, ?_, hwindow, hconsistent (by decide) (by decide) r hr⟩
  rw [hactive, howner]
  exact hcount 1400

/-- **Not every record of a sweep is consistent.**  A sweep over two hours counts in the last one
only, so its record of an account with a slot in each of them says that there was one slot in the
two hours. -/
theorem not_consistent_sweep : ¬ ∀ (limits : Limits) (calls : List Call) (isAdmin : OwnerId → Bool)
    (settings : SweepSettings) (now : Int), (∀ c ∈ calls, 0 < c.owner) →
    let registry := ((Registry.empty limits).run calls).1
    ∀ r ∈ writtenBy isAdmin registry {} settings now, r.Consistent registry := by
  intro h
  have hclaim := h ⟨2, 2⟩ [⟨1, "a", Registry.letters 8, 0⟩, ⟨1, "a", Registry.letters 512, 5000⟩]
    (fun _ => false) { windowSecs := 7200, threshold := 1 } 5000 (by simp)
  obtain ⟨htwo, hcount⟩ :=
    Registry.activeCount_run_two_payloads Registry.not_continues_letters 0 5000
  set registry := ((Registry.empty ⟨2, 2⟩).run
    [⟨1, "a", Registry.letters 8, 0⟩, ⟨1, "a", Registry.letters 512, 5000⟩]).1
  have hsize : registry.size < 0x10000000000000000 := by
    rw [htwo]
    decide
  have hcounted : registry.activeCount 1400 1 = 1 := hcount 1400
  have hnamed : registry.activeCount (-2200) 1 = 2 := hcount (-2200)
  have hreaching : 1 ∈ registry.reaching 1400 1 := by
    rw [Registry.mem_reaching, hcounted]
    exact ⟨le_rfl, le_rfl⟩
  obtain ⟨r, hr, howner⟩ := exists_mem_writtenBy (fun _ => false) registry {}
    { windowSecs := 7200, threshold := 1 } 5000 hsize rfl rfl hreaching
  obtain ⟨-, -, hnow, hwindow, hactive⟩ :=
    mem_writtenBy (fun _ => false) registry {} { windowSecs := 7200, threshold := 1 } 5000 hsize hr
  have hconsistent := hclaim r hr
  rw [Record.Consistent, hactive, hnow, hwindow, howner] at hconsistent
  exact absurd (hcounted.symm.trans (hconsistent.trans hnamed)) (by decide)

end Audit

end InFlight
