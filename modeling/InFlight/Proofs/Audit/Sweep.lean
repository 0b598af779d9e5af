import InFlight.CommandLine.Station
import InFlight.Proofs.Audit.Contents
import InFlight.Proofs.Registry.Stats

/-!
# What a sweep does

A sweep goes through the accounts that reach the threshold and does one of three things with each:
it skips an administrator, it drops a record that the store refuses, or it writes the record behind
those that the store holds.  Which of the three depends on the account alone, so a refused record
changes nothing for the other accounts but their numbers.

## Main definitions

* `InFlight.Audit.Store.refuses` — the accounts whose records a store does not take.
* `InFlight.Audit.numbered` — records under consecutive numbers.
* `InFlight.Audit.Swept` — what lies between two states of a sweep.
* `InFlight.Audit.Store.newRecordsOf` — what was written for an account.

## Main results

* `InFlight.Audit.Swept.visit`, `InFlight.Audit.Swept.foldl` — one account, and every list of them.
* `InFlight.Audit.Swept.sweep` — a whole sweep, with a test that keeps a state of its own.
* `InFlight.Audit.sweep_contract` — every sweep with a test that only answers.

## Design

An account with no slot in the window is in no ranking, so a threshold of zero has the same
candidates as a threshold of one (`not_card_candidates`).  Counts of slots are stored as 64-bit
words, and a registry has fewer slots than there are words.
-/

set_option relaxedAutoImplicit false
set_option autoImplicit false

namespace InFlight

namespace Audit

/-! ## Stores -/

namespace Store

/-- Whether a store refuses the records of an account: the medium does, or the history is not
open. -/
def refuses (s : Store) (o : OwnerId) : Bool := s.faults.owners.contains o || !s.backend.isOpen

variable {s : Store} {r : Record}

/-- The records that are refused are those that cannot be appended. -/
lemma refuses_iff : s.refuses r.owner = true ↔ ∃ e, s.append r = .error e := by
  unfold append refuses
  cases s.faults.owners.contains r.owner with
  | true => simp
  | false =>
    rw [Bool.false_or, Bool.not_eq_true', Backend.isOpen_eq_false_iff r]
    cases s.backend.append r <;> simp [Except.map]

/-- **Appending a record that is not refused** puts it behind the others, under the next number, and
changes nothing in what is refused. -/
lemma append_of_not_refuses (h : s.refuses r.owner = false)
    (hr : r.activeSlots < 0x10000000000000000) :
    ∃ s', s.append r = .ok (s.backend.lastId + 1, s') ∧ s'.refuses = s.refuses ∧
      s'.backend.lastId = s.backend.lastId + 1 ∧
      s'.backend.records = s.backend.records ++ [{ r with id := s.backend.lastId + 1 }] := by
  rw [refuses, Bool.or_eq_false_iff, Bool.not_eq_false'] at h
  obtain ⟨hfault, hopen⟩ := h
  obtain ⟨b, happend, hopen', hid, hrecords⟩ := Backend.append_of_isOpen hopen hr
  refine ⟨{ s with backend := b }, ?_, ?_, hid, hrecords⟩
  · rw [append, if_neg (Bool.not_eq_true _ ▸ hfault), happend]
    rfl
  · funext o
    simp only [refuses, hopen, hopen']

end Store

/-! ## Consecutive numbers -/

/-- Records under consecutive numbers, from `first` on. -/
def numbered (first : Int) : List Record → List Record
  | [] => []
  | r :: rest => { r with id := first } :: numbered (first + 1) rest

/-- Numbering goes on behind the records that come first. -/
lemma numbered_append (first : Int) (xs ys : List Record) :
    numbered first (xs ++ ys) = numbered first xs ++ numbered (first + xs.length) ys := by
  induction xs generalizing first with
  | nil => simp [numbered]
  | cons x xs ih =>
    have hnext : first + 1 + xs.length = first + (x :: xs).length := by
      rw [List.length_cons]
      omega
    rw [List.cons_append, numbered, numbered, ih, hnext, List.cons_append]

/-- A record under a number has the number of its place. -/
lemma getElem?_numbered (first : Int) (records : List Record) (k : Nat) :
    (numbered first records)[k]? = records[k]?.map fun r => { r with id := first + k } := by
  induction records generalizing first k with
  | nil => rfl
  | cons r rest ih =>
    cases k with
    | zero => simp [numbered]
    | succ k =>
      have hnext : first + 1 + (k : Int) = first + ((k + 1 : Nat) : Int) := by omega
      simp only [numbered, List.getElem?_cons_succ, ih, hnext]

/-- A numbered record is the one at its place with the number of the place. -/
lemma mem_numbered {first : Int} {records : List Record} {row : Record} :
    row ∈ numbered first records ↔
      ∃ (k : Nat) (r : Record), records[k]? = some r ∧ { r with id := first + k } = row := by
  simp only [List.mem_iff_getElem?, getElem?_numbered, Option.map_eq_some_iff]

/-- The records of an account, apart from their numbers, are the same with other numbers. -/
lemma filter_numbered (first : Int) (records : List Record) (o : OwnerId) :
    ((numbered first records).filter fun r => r.owner = o).map (fun r => { r with id := 0 }) =
      (records.filter fun r => r.owner = o).map fun r => { r with id := 0 } := by
  induction records generalizing first with
  | nil => rfl
  | cons r rest ih => by_cases h : r.owner = o <;> simp [numbered, h, ih]

/-! ## One account -/

variable {σ : Type} {test : AdminTest σ} {isAdmin : OwnerId → Bool} {settings : SweepSettings}
  {now : Int} {s s' s'' : SweepState σ} {row : Ranking.Row} {rows rows' : List Ranking.Row}

/-- The rows that are written, of some rows: those of accounts that are no administrators and are
not refused. -/
def writtenRows (isAdmin : OwnerId → Bool) (store : Store) (rows : List Ranking.Row) :
    List Ranking.Row :=
  rows.filter fun row => !isAdmin row.owner && !store.refuses row.owner

/-- What lies between two states of a sweep that went through some rows: each row has been skipped,
written or refused and is counted as such, the records written are behind the others under
consecutive numbers, and the same accounts are refused as before. -/
structure Swept (isAdmin : OwnerId → Bool) (settings : SweepSettings) (now : Int)
    (rows : List Ranking.Row) (s s' : SweepState σ) : Prop where
  refuses : s'.store.refuses = s.store.refuses
  lastId : s'.store.backend.lastId =
    s.store.backend.lastId + (writtenRows isAdmin s.store rows).length
  records : s'.store.backend.records = s.store.backend.records ++
    numbered (s.store.backend.lastId + 1)
      ((writtenRows isAdmin s.store rows).map (recordOf settings now))
  report : s'.report =
    { candidates := s.report.candidates
      skippedAdmins := s.report.skippedAdmins + rows.countP fun row => isAdmin row.owner
      written := s.report.written + (writtenRows isAdmin s.store rows).length
      failed := s.report.failed +
        rows.countP fun row => !isAdmin row.owner && s.store.refuses row.owner }

/-- What a visit can do: it counts an administrator or a refused record and leaves the store as it
is, or it writes the record. -/
lemma visit_cases (settings : SweepSettings) (now : Int)
    (hanswers : ∀ t o, (test t o).1 = isAdmin o) (s : SweepState σ)
    (hrow : row.activeSlots < 0x10000000000000000) :
    isAdmin row.owner = true ∧ visit test settings now s row =
        { s with
          test := (test s.test row.owner).2
          report := { s.report with skippedAdmins := s.report.skippedAdmins + 1 } } ∨
      isAdmin row.owner = false ∧ s.store.refuses row.owner = true ∧
        visit test settings now s row =
          { s with
            test := (test s.test row.owner).2
            report := { s.report with failed := s.report.failed + 1 } } ∨
      isAdmin row.owner = false ∧ s.store.refuses row.owner = false ∧
        ∃ store, visit test settings now s row =
            { test := (test s.test row.owner).2
              store
              report := { s.report with written := s.report.written + 1 } } ∧
          store.refuses = s.store.refuses ∧
          store.backend.lastId = s.store.backend.lastId + 1 ∧
          store.backend.records = s.store.backend.records ++
            [{ recordOf settings now row with id := s.store.backend.lastId + 1 }] := by
  have hanswer := hanswers s.test row.owner
  unfold visit
  generalize test s.test row.owner = answer at hanswer ⊢
  obtain ⟨admin, t⟩ := answer
  simp only at hanswer
  rw [← hanswer]
  cases admin with
  | true => exact Or.inl ⟨rfl, rfl⟩
  | false =>
    cases hrefuses : s.store.refuses row.owner with
    | true =>
      obtain ⟨e, happend⟩ :=
        Store.refuses_iff (r := recordOf settings now row).1 hrefuses
      exact Or.inr (Or.inl ⟨rfl, rfl, by rw [happend]; rfl⟩)
    | false =>
      obtain ⟨store, happend, hstore⟩ :=
        Store.append_of_not_refuses (r := recordOf settings now row) hrefuses hrow
      exact Or.inr (Or.inr ⟨rfl, rfl, store, by rw [happend]; rfl, hstore⟩)

/-- A refused record leaves the store as it is. -/
lemma store_visit_of_refuses (test : AdminTest σ) (settings : SweepSettings) (now : Int)
    (s : SweepState σ) (h : s.store.refuses row.owner = true) :
    (visit test settings now s row).store = s.store := by
  obtain ⟨e, happend⟩ := Store.refuses_iff (r := recordOf settings now row).1 h
  unfold visit
  generalize test s.test row.owner = answer
  obtain ⟨admin, t⟩ := answer
  cases admin with
  | true => rfl
  | false =>
    rw [happend]
    rfl

namespace Swept

/-- A sweep over no account changes nothing. -/
lemma nil (s : SweepState σ) : Swept isAdmin settings now [] s s where
  refuses := rfl
  lastId := by simp [writtenRows]
  records := by simp [writtenRows, numbered]
  report := by simp [writtenRows]

/-- **One account.** -/
theorem visit (hanswers : ∀ t o, (test t o).1 = isAdmin o) (s : SweepState σ)
    (hrow : row.activeSlots < 0x10000000000000000) :
    Swept isAdmin settings now [row] s (Audit.visit test settings now s row) := by
  rcases visit_cases settings now hanswers s hrow with
    ⟨hadmin, hvisit⟩ | ⟨hadmin, hrefuses, hvisit⟩ |
      ⟨hadmin, hrefuses, store, hvisit, hsame, hid, hrecords⟩
  · have hnone : writtenRows isAdmin s.store [row] = [] := by simp [writtenRows, hadmin]
    rw [hvisit]
    constructor <;> simp [hnone, numbered, hadmin]
  · have hnone : writtenRows isAdmin s.store [row] = [] := by simp [writtenRows, hrefuses]
    rw [hvisit]
    constructor <;> simp [hnone, numbered, hadmin, hrefuses]
  · have hone : writtenRows isAdmin s.store [row] = [row] := by
      simp [writtenRows, hadmin, hrefuses]
    rw [hvisit]
    constructor <;> simp [hone, numbered, hadmin, hrefuses, hsame, hid, hrecords]

/-- Some accounts, and then others. -/
lemma append (h : Swept isAdmin settings now rows s s')
    (h' : Swept isAdmin settings now rows' s' s'') :
    Swept isAdmin settings now (rows ++ rows') s s'' := by
  -- the state in the middle refuses the same accounts, so the first one decides what is written
  have hsame : writtenRows isAdmin s'.store rows' = writtenRows isAdmin s.store rows' := by
    rw [writtenRows, h.refuses, writtenRows]
  have hboth : writtenRows isAdmin s.store (rows ++ rows') =
      writtenRows isAdmin s.store rows ++ writtenRows isAdmin s.store rows' :=
    List.filter_append _ _
  constructor
  · rw [h'.refuses, h.refuses]
  · rw [h'.lastId, h.lastId, hsame, hboth, List.length_append]
    omega
  · rw [h'.records, h.records, h.lastId, hsame, hboth, List.map_append, numbered_append,
      List.append_assoc, List.length_map]
    congr 3
    omega
  · rw [h'.report, h.report, hsame, hboth, h.refuses]
    simp only [List.length_append, List.countP_append, Nat.add_assoc]

/-- **Every list of accounts.** -/
theorem foldl (hanswers : ∀ t o, (test t o).1 = isAdmin o) (s : SweepState σ)
    (hrows : ∀ row ∈ rows, row.activeSlots < 0x10000000000000000) :
    Swept isAdmin settings now rows s (rows.foldl (Audit.visit test settings now) s) := by
  induction rows generalizing s with
  | nil => exact Swept.nil s
  | cons row rows ih =>
    obtain ⟨hrow, hrows⟩ := List.forall_mem_cons.1 hrows
    exact (Swept.visit hanswers s hrow).append (ih _ hrows)

end Swept

/-! ## What is written for an account -/

/-- The records of an account that a store holds behind those of an earlier store, apart from their
numbers. -/
def Store.newRecordsOf (before after : Store) (o : OwnerId) : List Record :=
  ((after.backend.records.drop before.backend.records.length).filter fun r => r.owner = o).map
    fun r => { r with id := 0 }

/-- What is written for an account depends on whether that account is refused, and on nothing else
in the store. -/
lemma Swept.newRecordsOf (h : Swept isAdmin settings now rows s s') (o : OwnerId) :
    s.store.newRecordsOf s'.store o =
      ((rows.filter fun row => row.owner = o).filter fun _ =>
        !isAdmin o && !s.store.refuses o).map (recordOf settings now) := by
  have hfilter : (writtenRows isAdmin s.store rows).filter (fun row => row.owner = o) =
      (rows.filter fun row => row.owner = o).filter fun _ =>
        !isAdmin o && !s.store.refuses o := by
    rw [writtenRows, List.filter_filter, List.filter_filter]
    refine List.filter_congr fun row _ => ?_
    by_cases ho : row.owner = o <;> simp [ho]
  rw [Store.newRecordsOf, h.records, List.drop_left, filter_numbered, List.filter_map,
    List.map_map]
  exact congrArg _ hfilter

/-! ## Every sweep -/

/-- Every row is an administrator's, is written or is refused. -/
lemma length_eq_add_writtenRows (isAdmin : OwnerId → Bool) (store : Store)
    (rows : List Ranking.Row) : rows.length =
      (rows.countP fun row => isAdmin row.owner) + (writtenRows isAdmin store rows).length +
        rows.countP fun row => !isAdmin row.owner && store.refuses row.owner := by
  induction rows with
  | nil => rfl
  | cons row rows ih =>
    unfold writtenRows at *
    cases hadmin : isAdmin row.owner <;> cases hrefuses : store.refuses row.owner <;>
      simp [hadmin, hrefuses] <;> omega

/-- Rows are written for the accounts that are no administrators and are not refused. -/
lemma mem_owners_writtenRows {store : Store} {o : OwnerId} :
    o ∈ (writtenRows isAdmin store rows).map Ranking.Row.owner ↔
      o ∈ rows.map Ranking.Row.owner ∧ isAdmin o = false ∧ store.refuses o = false := by
  simp only [writtenRows, List.mem_map, List.mem_filter, Bool.and_eq_true, Bool.not_eq_true']
  constructor
  · rintro ⟨row, ⟨hrow, hwritten⟩, rfl⟩
    exact ⟨⟨row, hrow, rfl⟩, hwritten⟩
  · rintro ⟨⟨row, hrow, rfl⟩, hwritten⟩
    exact ⟨row, ⟨hrow, hwritten⟩, rfl⟩

section Candidates

variable (registry : Registry) (settings : SweepSettings) (now : Int)

/-- The accounts that a sweep looks at are those of the ranking that reach the threshold. -/
lemma candidates_eq_filter : candidates registry settings now =
    (registry.rank settings.windowSecs none now).filter fun row =>
      row.owner ∈ registry.reaching (now - Ranking.effectiveWindow settings.windowSecs)
        settings.threshold := by
  have hranked := registry.ranked_rank settings.windowSecs now
  refine List.filter_congr fun row hrow => decide_eq_decide.2 ?_
  have hactive := (hranked.mem_owners _).1 (List.mem_map_of_mem hrow)
  rw [hranked.activeSlots row hrow, Registry.mem_reaching,
    and_iff_left (Registry.one_le_activeCount.2 hactive)]

/-- The rows of a sweep are counted by account. -/
lemma countP_candidates (p : OwnerId → Bool) :
    ((candidates registry settings now).countP fun row => p row.owner) =
      ((registry.reaching (now - Ranking.effectiveWindow settings.windowSecs)
        settings.threshold).filter fun o => p o).card :=
  registry.countP_highActive settings.windowSecs settings.threshold now p

/-- There are as many candidates as accounts that reach the threshold. -/
lemma length_candidates : (candidates registry settings now).length =
    (registry.reaching (now - Ranking.effectiveWindow settings.windowSecs)
      settings.threshold).card := by
  simpa using countP_candidates registry settings now fun _ => true

variable {registry settings now}

/-- No account has more slots than there are. -/
lemma activeSlots_le_of_mem_candidates (h : row ∈ candidates registry settings now) :
    row.activeSlots ≤ registry.size := by
  have hranked := registry.ranked_rank settings.windowSecs now
  rw [hranked.activeSlots row (List.mem_of_mem_filter h)]
  exact (registry.activeCount_le _ _).trans List.countP_le_length

end Candidates

/-- **Every sweep** goes through the accounts that reach the threshold. -/
theorem Swept.sweep (settings : SweepSettings) (now : Int)
    (hanswers : ∀ t o, (test t o).1 = isAdmin o) (t : σ) (store : Store) {registry : Registry}
    (hsize : registry.size < 0x10000000000000000) :
    Swept isAdmin settings now (candidates registry settings now)
      { test := t, store, report := { candidates := (candidates registry settings now).length } }
      (Audit.sweep test t registry store settings now) :=
  Swept.foldl hanswers _ fun _ hrow => (activeSlots_le_of_mem_candidates hrow).trans_lt hsize

section Plain

variable (isAdmin) (registry : Registry) (store : Store) (settings now)
  (hsize : registry.size < 0x10000000000000000)

include hsize

/-- A sweep with a test that only answers. -/
lemma swept_plain : Swept isAdmin settings now (candidates registry settings now)
    { test := (), store, report := { candidates := (candidates registry settings now).length } }
    (sweep (fun (_ : Unit) o => (isAdmin o, ())) () registry store settings now) := by
  have hanswers : ∀ t o, (Prod.mk (isAdmin o) t).1 = isAdmin o := fun (_ : Unit) _ => rfl
  exact Swept.sweep settings now hanswers () store hsize

/-- The report of a sweep counts accounts. -/
lemma report_sweepPlain :
    let reached := registry.reaching (now - Ranking.effectiveWindow settings.windowSecs)
      settings.threshold
    (sweepPlain isAdmin registry store settings now).2 =
      { candidates := reached.card
        skippedAdmins := (reached.filter fun o => isAdmin o).card
        written := (writtenRows isAdmin store (candidates registry settings now)).length
        failed := (reached.filter fun o => !isAdmin o && store.refuses o).card } := by
  intro reached
  have hfailed := countP_candidates registry settings now fun o => !isAdmin o && store.refuses o
  refine (swept_plain isAdmin settings now registry store hsize).report.trans ?_
  rw [length_candidates, countP_candidates, hfailed]
  simp only [Nat.zero_add, reached]

/-- What is written for an account is the same in stores that both refuse it or both do not. -/
lemma newRecordsOf_sweepPlain {store' : Store} {o : OwnerId}
    (h : store'.refuses o = store.refuses o) :
    store'.newRecordsOf (sweepPlain isAdmin registry store' settings now).1 o =
      store.newRecordsOf (sweepPlain isAdmin registry store settings now).1 o := by
  have hnew := (swept_plain isAdmin settings now registry store hsize).newRecordsOf o
  have hnew' := (swept_plain isAdmin settings now registry store' hsize).newRecordsOf o
  simp only [h] at hnew'
  exact hnew'.trans hnew.symm

end Plain

/-- **The contract of a sweep**, for every registry, test for administrators, store, settings and
time.  The candidates are the accounts with at least `threshold` slots in the window, and at least
one.  Each of them is skipped, refused or written, and the report counts them.  The records written
are behind those that the store held, in ranking order and under consecutive numbers: one for each
candidate that is no administrator and not refused, with the name that it is ranked under and the
number of its slots in the window.  A refused record changes neither the store nor what is written
for other accounts, and the registry stays as it is.

**Proof sketch.** A sweep is a walk over the candidates (`Swept.sweep`).  Every account occurs once
among these, so the rows may be counted by account (`countP_candidates`). -/
theorem sweep_contract (isAdmin : OwnerId → Bool) (registry : Registry) (store : Store)
    (settings : SweepSettings) (now : Int) (hsize : registry.size < 0x10000000000000000) :
    let cutoff := now - Ranking.effectiveWindow settings.windowSecs
    let reached := registry.reaching cutoff settings.threshold
    let rows := (registry.rank settings.windowSecs none now).filter fun row =>
      decide (row.owner ∈ reached) && !isAdmin row.owner && !store.refuses row.owner
    let after := (sweepPlain isAdmin registry store settings now).1
    let report := (sweepPlain isAdmin registry store settings now).2
    report =
        { candidates := reached.card
          skippedAdmins := (reached.filter fun o => isAdmin o).card
          written := rows.length
          failed := (reached.filter fun o => !isAdmin o && store.refuses o).card } ∧
      report.candidates = report.skippedAdmins + report.written + report.failed ∧
      (rows.map Ranking.Row.owner).Nodup ∧
      (∀ o, o ∈ rows.map Ranking.Row.owner ↔
        o ∈ reached ∧ isAdmin o = false ∧ store.refuses o = false) ∧
      after.backend.records = store.backend.records ++
        numbered (store.backend.lastId + 1) (rows.map fun row =>
          { id := 0
            owner := row.owner
            name := row.name
            activeSlots := registry.activeCount cutoff row.owner
            windowSecs := settings.windowSecs
            createdAt := now }) ∧
      after.refuses = store.refuses ∧
      (∀ r : Record, store.refuses r.owner = true ↔ ∃ e, store.append r = .error e) ∧
      (∀ (test : AdminTest Unit) (s : SweepState Unit) (row : Ranking.Row),
        s.store.refuses row.owner = true → (visit test settings now s row).store = s.store) ∧
      (∀ (store' : Store) (o : OwnerId), store'.refuses o = store.refuses o →
        store'.newRecordsOf (sweepPlain isAdmin registry store' settings now).1 o =
          store.newRecordsOf after o) ∧
      ∀ station : CommandLine.Station,
        (station.sweep now).service.registry = station.service.registry := by
  intro cutoff reached rows after report
  have hranked := registry.ranked_rank settings.windowSecs now
  have hswept := swept_plain isAdmin settings now registry store hsize
  have hrows : writtenRows isAdmin store (candidates registry settings now) = rows := by
    rw [writtenRows, candidates_eq_filter, List.filter_filter]
    exact List.filter_congr fun row _ => by rw [Bool.and_comm, ← Bool.and_assoc]
  have hreport := report_sweepPlain isAdmin settings now registry store hsize
  rw [hrows] at hreport
  refine ⟨hreport, ?_, ?_, ?_, ?_, hswept.refuses, ?_, ?_, ?_, ?_⟩
  · have hall := length_eq_add_writtenRows isAdmin store (candidates registry settings now)
    rw [length_candidates, countP_candidates, hrows,
      countP_candidates _ _ _ fun o => !isAdmin o && store.refuses o] at hall
    rw [show report = _ from hreport]
    exact hall
  · exact hranked.nodup_owners.sublist (List.filter_sublist.map _)
  · intro o
    rw [← hrows, mem_owners_writtenRows]
    exact and_congr_left' (registry.mem_owners_highActive _ _ _)
  · have hrecords := hswept.records
    rw [hrows] at hrecords
    refine hrecords.trans (congrArg (_ ++ numbered _ ·) (List.map_congr_left fun row hrow => ?_))
    rw [recordOf, hranked.activeSlots row (List.mem_of_mem_filter hrow)]
  · exact fun r => Store.refuses_iff
  · exact fun test s row h => store_visit_of_refuses test settings now s h
  · exact fun store' o h => newRecordsOf_sweepPlain isAdmin settings now registry store hsize h
  · exact fun station => rfl

/-- Two accounts are in the window.  The medium refuses the first, and the other is written behind
what the table holds. -/
theorem sweep_refused_account :
    let registry := ((Registry.empty ⟨2, 1⟩).run [⟨1, "a", .empty, 1⟩, ⟨2, "b", .empty, 2⟩]).1
    let store : Store :=
      { backend := .table (some { rows := #[⟨7, 3, "c", 5, 600, 0⟩], lastId := 8 })
        faults := { owners := [1] } }
    let after := sweepPlain (fun _ => false) registry store { windowSecs := 10, threshold := 1 } 11
    registry.size < 0x10000000000000000 ∧ after.2 = ⟨2, 0, 1, 1⟩ ∧
      after.1.backend.records = [⟨7, 3, "c", 5, 600, 0⟩, ⟨9, 2, "b", 1, 10, 11⟩] := by
  intro registry store after
  have htasks := Registry.tasks_run_two_accounts .empty
  have hsize : registry.size < 0x10000000000000000 := by
    rw [Registry.size_run_two_accounts]
    decide
  have hrank : registry.rank 10 none 11 = [⟨1, "a", 1⟩, ⟨2, "b", 1⟩] :=
    Registry.rank_run_two_accounts .empty (by decide)
  have hreached : registry.reaching 1 1 = {1, 2} := by
    simp [Registry.reaching, Registry.activeCount, registry, htasks]
  have hcount : registry.activeCount 1 2 = 1 := by
    simp [Registry.activeCount, registry, htasks]
  have hcutoff : (11 : Int) - Ranking.effectiveWindow 10 = 1 := rfl
  obtain ⟨hreport, -, -, -, hrecords, -⟩ :=
    sweep_contract (fun _ => false) registry store { windowSecs := 10, threshold := 1 } 11 hsize
  have hwritten : ([⟨1, "a", 1⟩, ⟨2, "b", 1⟩] : List Ranking.Row).filter (fun row =>
      decide (row.owner ∈ ({1, 2} : Finset OwnerId)) && !false && !store.refuses row.owner) =
        [⟨2, "b", 1⟩] := rfl
  rw [hrank, hcutoff, hreached, hwritten] at hreport hrecords
  refine ⟨hsize, hreport.trans (by decide), hrecords.trans ?_⟩
  rw [List.map_singleton, hcount]
  rfl

/-- Not every account with at least `threshold` slots in the window is a candidate: with a threshold
of zero every account has as many, and one with no slot in the window is not ranked. -/
theorem not_card_candidates : ¬ ∀ (limits : Limits) (calls : List Call)
    (isAdmin : OwnerId → Bool) (store : Store) (settings : SweepSettings) (now : Int),
    let registry := ((Registry.empty limits).run calls).1
    (sweepPlain isAdmin registry store settings now).2.candidates =
      ((registry.tasks.toList.map Task.owner).toFinset.filter fun o =>
        settings.threshold ≤ registry.activeCount
          (now - Ranking.effectiveWindow settings.windowSecs) o).card := by
  intro h
  have htasks := Registry.tasks_run_two_accounts .empty
  have hsize := Registry.size_run_two_accounts .empty
  have hclaim := h ⟨2, 1⟩ [⟨1, "a", .empty, 1⟩, ⟨2, "b", .empty, 2⟩] (fun _ => false) {}
    { windowSecs := 9, threshold := 0 } 11
  set registry := ((Registry.empty ⟨2, 1⟩).run [⟨1, "a", .empty, 1⟩, ⟨2, "b", .empty, 2⟩]).1
  have hlt : registry.size < 0x10000000000000000 := by
    rw [hsize]
    decide
  have howners : (registry.tasks.toList.map Task.owner).toFinset = {1, 2} := by
    rw [htasks]
    rfl
  have hcount : ∀ o, registry.activeCount 2 o = if 2 = o then 1 else 0 := fun o => by
    simp [Registry.activeCount, htasks]
  have hcutoff : (11 : Int) - Ranking.effectiveWindow 9 = 2 := rfl
  simp only [report_sweepPlain _ _ _ _ _ hlt, Registry.reaching, howners, hcutoff,
    hcount] at hclaim
  exact absurd hclaim (by decide)

end Audit

end InFlight
