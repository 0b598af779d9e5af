import Mathlib.Algebra.Order.Floor.Div
import Mathlib.Data.UInt
import InFlight.Audit.Patrol
import InFlight.Proofs.Audit.Sweep

/-!
# When a patrol stops

A stop may be asked for while a sweep is under way: here by the test for administrators, on a call
of its own choosing.  The sweep goes on through all its candidates, and no further one begins.  So
if the request comes with call `k` and a sweep has `c` candidates, there are `⌈k / c⌉` sweeps in
all, and the counters and the history have grown by what these did.  A request is never taken back:
every later patrol under the same handle ends before its first sweep.

## Main definitions

* `InFlight.Audit.Accounted` — what the report and the history say of the accounts gone through.
* `InFlight.Audit.Patrol.after`, `InFlight.Audit.Patrol.reports` — a patrol after some sweeps, and
  what these reported.
* `InFlight.Audit.Orders`, `InFlight.Audit.Patrol.runAll?` — one patrol after another.

## Main results

* `InFlight.Audit.Accounted.sweep` — every sweep, whatever the test does to its own state.
* `InFlight.Audit.Patrol.rounds?_eq` — how many sweeps a patrol makes, from when the stop is asked
  for.
* `InFlight.Audit.Patrol.handle_after` — the handle after any number of sweeps.
* `InFlight.Audit.Patrol.stop_run` — patrols that are stopped from within, and those under a handle
  that is stopped already.

## Design

The measure that ends a patrol is not in the code: it is the number of calls of the test that are
still to come before the one that asks for the stop, which every sweep lowers by the number of its
candidates (`test_after`).
-/

set_option relaxedAutoImplicit false
set_option autoImplicit false

namespace InFlight

namespace Audit

/-! ## Sweeps with any test -/

section Sweep

variable {σ : Type} {test : AdminTest σ} {settings : SweepSettings} {now : Int}
  {s s' s'' : SweepState σ} {m m' : Nat}

/-- An appended record is the only one that the store holds besides those it held before. -/
lemma Store.records_of_append {store store' : Store} {r : Record} {id : Int}
    (h : store.append r = .ok (id, store')) :
    ∃ held, store'.backend.records = store.backend.records ++ [held] := by
  unfold Store.append at h
  split at h
  · cases h
  · rcases hb : store.backend with j | (_ | t) | t <;>
      simp only [hb, Backend.append, Except.map, reduceCtorEq, Except.ok.injEq,
        Prod.mk.injEq] at h
    · obtain ⟨-, rfl⟩ := h
      exact ⟨_, by simp [Backend.records, Journal.append]; rfl⟩
    · obtain ⟨-, rfl⟩ := h
      exact ⟨_, by simp [Backend.records, Table.append]; rfl⟩

/-- Between two states of a sweep `m` accounts were gone through: each was counted once, and the
history grew by the records counted as written. -/
structure Accounted (m : Nat) (s s' : SweepState σ) : Prop where
  candidates : s'.report.candidates = s.report.candidates
  counted : s'.report.skippedAdmins + s'.report.written + s'.report.failed =
    s.report.skippedAdmins + s.report.written + s.report.failed + m
  held : s.store.backend.records <+: s'.store.backend.records
  grown : s'.store.backend.records.length + s.report.written =
    s.store.backend.records.length + s'.report.written

namespace Accounted

/-- Where no account is gone through, nothing is counted. -/
lemma refl (s : SweepState σ) : Accounted 0 s s := ⟨rfl, rfl, List.prefix_refl _, rfl⟩

/-- Accounts that are gone through one after the other are counted together. -/
lemma trans (h : Accounted m s s') (h' : Accounted m' s' s'') : Accounted (m + m') s s'' where
  candidates := h'.candidates.trans h.candidates
  counted := by
    have hcounted := h.counted
    have hcounted' := h'.counted
    omega
  held := h.held.trans h'.held
  grown := by
    have hgrown := h.grown
    have hgrown' := h'.grown
    omega

/-- One account, whatever the test answers. -/
lemma visit (test : AdminTest σ) (settings : SweepSettings) (now : Int) (s : SweepState σ)
    (row : Ranking.Row) : Accounted 1 s (visit test settings now s row) := by
  unfold Audit.visit
  generalize test s.test row.owner = answer
  obtain ⟨admin, t⟩ := answer
  cases admin with
  | true =>
    refine ⟨rfl, ?_, List.prefix_refl _, rfl⟩
    simp only [if_true]
    omega
  | false =>
    simp only [Bool.false_eq_true, if_false]
    cases happend : s.store.append (recordOf settings now row) with
    | error e =>
      refine ⟨rfl, ?_, List.prefix_refl _, rfl⟩
      simp only
      omega
    | ok r =>
      obtain ⟨id, store⟩ := r
      obtain ⟨held, hrecords⟩ := Store.records_of_append happend
      refine ⟨rfl, ?_, ?_, ?_⟩
      · simp only
        omega
      · simp only [hrecords, List.prefix_append]
      · simp only [hrecords, List.length_append, List.length_singleton]
        omega

/-- Any list of accounts. -/
lemma foldl (test : AdminTest σ) (settings : SweepSettings) (now : Int)
    (rows : List Ranking.Row) (s : SweepState σ) :
    Accounted rows.length s (rows.foldl (Audit.visit test settings now) s) := by
  induction rows generalizing s with
  | nil => exact refl s
  | cons row rows ih =>
    have hstep := (visit test settings now s row).trans (ih _)
    rwa [Nat.add_comm] at hstep

/-- **Every sweep** goes through all its candidates, whatever the test does to its own state. -/
theorem sweep (test : AdminTest σ) (t : σ) (registry : Registry) (store : Store)
    (settings : SweepSettings) (now : Int) :
    let c := (Audit.candidates registry settings now).length
    let s := Audit.sweep test t registry store settings now
    s.report.candidates = c ∧
      s.report.skippedAdmins + s.report.written + s.report.failed = c ∧
      store.backend.records <+: s.store.backend.records ∧
      s.store.backend.records.length = store.backend.records.length + s.report.written := by
  intro c s
  have h := foldl test settings now (Audit.candidates registry settings now)
    { test := t, store, report := { candidates := c } }
  exact ⟨h.candidates, h.counted.trans (Nat.zero_add _), h.held, h.grown⟩

end Accounted

/-- A sweep calls the test once for every candidate, in ranking order. -/
lemma test_foldl_visit (test : AdminTest σ) (settings : SweepSettings) (now : Int)
    (rows : List Ranking.Row) (s : SweepState σ) :
    (rows.foldl (visit test settings now) s).test =
      rows.foldl (fun t row => (test t row.owner).2) s.test := by
  induction rows generalizing s with
  | nil => rfl
  | cons row rows ih =>
    have hvisit : (visit test settings now s row).test = (test s.test row.owner).2 := by
      unfold visit
      generalize test s.test row.owner = answer
      obtain ⟨admin, t⟩ := answer
      cases admin with
      | true => rfl
      | false => cases s.store.append (recordOf settings now row) <;> rfl
    rw [List.foldl_cons, List.foldl_cons, ih, hvisit]

/-- The test that asks for a stop, over any number of calls: it has asked if the call was one of
them. -/
lemma foldl_stoppingTest (isAdmin : OwnerId → Bool) (rows : List Ranking.Row) (handle : Handle)
    (left : Nat) :
    rows.foldl (fun t row => (stoppingTest isAdmin t row.owner).2) (handle, left) =
      (if 1 ≤ left ∧ left ≤ rows.length then handle.stop else handle, left - rows.length) := by
  induction rows generalizing handle left with
  | nil =>
    rw [List.length_nil, if_neg (by omega)]
    rfl
  | cons row rows ih =>
    rw [List.foldl_cons, stoppingTest, ih, List.length_cons]
    have hleft : left - 1 - rows.length = left - (rows.length + 1) := by omega
    rw [hleft]
    congr 1
    -- the call is this one, a later one, or none of them
    rcases Nat.lt_trichotomy left 1 with h | rfl | h
    · rw [if_neg (by omega), if_neg (by omega), if_neg (by omega)]
    · rw [if_neg (by omega), if_pos rfl, if_pos (by omega)]
    · rw [if_neg (by omega : left ≠ 1)]
      by_cases hle : left ≤ rows.length + 1
      · rw [if_pos (by omega), if_pos (by omega)]
      · rw [if_neg (by omega), if_neg (by omega)]

end Sweep

namespace Patrol

variable {κ : Type}

/-! ## A patrol sweep by sweep -/

section Rounds

variable (test : AdminTest (Handle × κ)) (registry : Registry) (settings : SweepSettings)
  (now : Int)

/-- A patrol after `n` sweeps. -/
def after (n : Nat) (p : Patrol κ) : Patrol κ := (round test registry settings now)^[n] p

/-- What the next sweep of a patrol reports. -/
def report (p : Patrol κ) : Report :=
  (sweep test (p.handle, p.test) registry p.store settings now).report

/-- What the first `n` sweeps of a patrol report, in order. -/
def reports (n : Nat) (p : Patrol κ) : List Report :=
  (List.range n).map fun j =>
    (p.after test registry settings now j).report test registry settings now

variable {test registry settings now}

/-- One more round, as the last one. -/
lemma after_succ (n : Nat) (p : Patrol κ) :
    p.after test registry settings now (n + 1) =
      (p.after test registry settings now n).round test registry settings now :=
  Function.iterate_succ_apply' _ _ _

/-- One more round, as the first one. -/
lemma after_succ' (n : Nat) (p : Patrol κ) :
    p.after test registry settings now (n + 1) =
      (p.round test registry settings now).after test registry settings now n :=
  Function.iterate_succ_apply _ _ _

/-- The sum of a count over the reports of one more sweep. -/
lemma sum_reports_succ (count : Report → Nat) (n : Nat) (p : Patrol κ) :
    ((p.reports test registry settings now (n + 1)).map count).sum =
      ((p.reports test registry settings now n).map count).sum +
        count ((p.after test registry settings now n).report test registry settings now) := by
  simp [reports, List.range_succ]

/-- A patrol that sees a stop request ends. -/
lemma rounds?_of_stop {p : Patrol κ} (h : p.handle.stopRequested = true) (fuel : Nat) :
    rounds? test registry settings now fuel p =
      some { p with handle := p.handle.setRunning false } := by
  rw [rounds?.eq_def]
  exact if_pos h

/-- A patrol that sees none sweeps once more. -/
lemma rounds?_of_not_stop {p : Patrol κ} (h : p.handle.stopRequested = false) (fuel : Nat) :
    rounds? test registry settings now 0 p = none ∧
      rounds? test registry settings now (fuel + 1) p =
        rounds? test registry settings now fuel (p.round test registry settings now) := by
  have hgoes : ¬ p.handle.waitOrStop = true := by
    rw [Handle.waitOrStop, h]
    decide
  constructor <;> rw [rounds?.eq_def] <;> exact if_neg hgoes

/-- **How many sweeps there are**: as many as begin without a stop request.

**Proof sketch.** Induction on the number of sweeps; the loop looks at the stop request before each
of them, and at nothing else. -/
lemma rounds?_eq {n : Nat} {p : Patrol κ}
    (hstop : ∀ j ≤ n,
      (p.after test registry settings now j).handle.stopRequested = decide (n ≤ j))
    (fuel : Nat) :
    rounds? test registry settings now fuel p =
      if n ≤ fuel then
        some { p.after test registry settings now n with
          handle := (p.after test registry settings now n).handle.setRunning false }
      else none := by
  induction n generalizing p fuel with
  | zero =>
    rw [if_pos (Nat.zero_le fuel)]
    exact rounds?_of_stop (hstop 0 le_rfl) fuel
  | succ n ih =>
    have hgoes : p.handle.stopRequested = false := (hstop 0 (Nat.zero_le _)).trans (by simp)
    have hrest : ∀ j ≤ n, ((p.round test registry settings now).after test registry settings now
        j).handle.stopRequested = decide (n ≤ j) := by
      intro j hj
      rw [← after_succ', hstop (j + 1) (by omega)]
      simp only [Nat.add_le_add_iff_right]
    cases fuel with
    | zero => rw [(rounds?_of_not_stop hgoes 0).1, if_neg (by omega)]
    | succ fuel =>
      rw [(rounds?_of_not_stop hgoes fuel).2, ih hrest, ← after_succ']
      simp only [Nat.add_le_add_iff_right]

variable (test registry settings now) in
/-- The history after some sweeps holds what it held, and has grown by the records counted as
written. -/
lemma records_after (n : Nat) (p : Patrol κ) :
    p.store.backend.records <+: (p.after test registry settings now n).store.backend.records ∧
      (p.after test registry settings now n).store.backend.records.length =
        p.store.backend.records.length +
          ((p.reports test registry settings now n).map Report.written).sum := by
  induction n with
  | zero => exact ⟨List.prefix_refl _, rfl⟩
  | succ n ih =>
    obtain ⟨hheld, hlength⟩ := ih
    set q := p.after test registry settings now n with hq
    obtain ⟨-, -, hheld', hlength'⟩ :=
      Accounted.sweep test (q.handle, q.test) registry q.store settings now
    have hstore : (p.after test registry settings now (n + 1)).store =
        (sweep test (q.handle, q.test) registry q.store settings now).store := by
      rw [after_succ]
      rfl
    rw [hstore, sum_reports_succ]
    refine ⟨hheld.trans hheld', ?_⟩
    rw [hlength', hlength, Nat.add_assoc]
    rfl

/-- Every sweep of a patrol goes through all candidates. -/
lemma counted_of_mem_reports {n : Nat} {p : Patrol κ} {report : Report}
    (h : report ∈ p.reports test registry settings now n) :
    report.candidates = (candidates registry settings now).length ∧
      report.skippedAdmins + report.written + report.failed =
        (candidates registry settings now).length := by
  obtain ⟨j, -, rfl⟩ := List.mem_map.1 h
  obtain ⟨hcandidates, hcounted, -, -⟩ := Accounted.sweep test
    ((p.after test registry settings now j).handle, (p.after test registry settings now j).test)
    registry (p.after test registry settings now j).store settings now
  exact ⟨hcandidates, hcounted⟩

end Rounds

/-! ## A stop from within -/

section Stopping

variable {isAdmin : OwnerId → Bool} {registry : Registry} {settings : SweepSettings} {now : Int}

/-- One sweep with the test that asks for a stop. -/
lemma round_stoppingTest (p : Patrol Nat) :
    let c := (candidates registry settings now).length
    (p.round (stoppingTest isAdmin) registry settings now).test = p.test - c ∧
      (p.round (stoppingTest isAdmin) registry settings now).handle =
        (if 1 ≤ p.test ∧ p.test ≤ c then p.handle.stop else p.handle).recordTick
          (p.report (stoppingTest isAdmin) registry settings now) := by
  intro c
  have htest := test_foldl_visit (stoppingTest isAdmin) settings now
    (candidates registry settings now)
    { test := (p.handle, p.test), store := p.store, report := { candidates := c } }
  rw [foldl_stoppingTest] at htest
  refine ⟨congrArg Prod.snd htest, ?_⟩
  exact congrArg
    (fun t => t.1.recordTick (p.report (stoppingTest isAdmin) registry settings now)) htest

/-- Every sweep brings the call that asks for the stop nearer by the number of candidates. -/
lemma test_after (n : Nat) (p : Patrol Nat) :
    (p.after (stoppingTest isAdmin) registry settings now n).test =
      p.test - n * (candidates registry settings now).length := by
  induction n with
  | zero => simp [after]
  | succ n ih =>
    rw [after_succ, (round_stoppingTest _).1, ih, Nat.sub_sub, Nat.add_one_mul]

variable (isAdmin registry settings now) in
/-- **The handle after some sweeps**: a stop has been requested if the call that asks for it was
one of theirs, and the counters have grown by what they reported. -/
lemma handle_after {p : Patrol Nat} (hclear : p.handle.stopRequested = false) (hcall : 1 ≤ p.test)
    (n : Nat) :
    let reports := p.reports (stoppingTest isAdmin) registry settings now n
    (p.after (stoppingTest isAdmin) registry settings now n).handle =
      { stopRequested := decide (p.test ≤ n * (candidates registry settings now).length)
        ticks := p.handle.ticks + UInt64.ofNat n
        recordsWritten := p.handle.recordsWritten + UInt64.ofNat (reports.map Report.written).sum
        writeFailures := p.handle.writeFailures + UInt64.ofNat (reports.map Report.failed).sum
        running := p.handle.running } := by
  induction n with
  | zero =>
    have hbefore : ¬ p.test ≤ 0 := by omega
    simp [after, reports, hbefore, ← hclear]
  | succ n ih =>
    have hadd : ∀ (a : UInt64) (k m : Nat),
        a + UInt64.ofNat k + UInt64.ofNat m = a + UInt64.ofNat (k + m) := fun a k m => by
      rw [UInt64.ofNat_add, add_assoc]
    simp only [after_succ, (round_stoppingTest _).2, test_after, ih, sum_reports_succ, ← hadd]
    -- the call is one of this sweep, or it is not
    have hlater := Nat.add_one_mul n (candidates registry settings now).length
    split_ifs with hnow
    · have hstop : p.test ≤ (n + 1) * (candidates registry settings now).length := by omega
      simp only [hstop, decide_true]
      rfl
    · have hstop : p.test ≤ (n + 1) * (candidates registry settings now).length ↔
          p.test ≤ n * (candidates registry settings now).length := by omega
      simp only [hstop]
      rfl

end Stopping

end Patrol

/-! ## One patrol after another -/

/-- What a patrol is sent out with, and how many sweeps it is waited for. -/
structure Orders (κ : Type) where
  test : AdminTest (Handle × κ)
  registry : Registry
  settings : SweepSettings
  now : Int
  patience : Nat

namespace Patrol

variable {κ : Type}

/-- One patrol after another, under the same handle. -/
def runAll? (p : Patrol κ) (orders : List (Orders κ)) : Option (Patrol κ) :=
  orders.foldlM (fun p o => p.run? o.test o.registry o.settings o.now o.patience) p

/-- A patrol under a handle that is stopped ends before its first sweep, however long it is waited
for. -/
lemma run?_of_stopRequested {p : Patrol κ} (h : p.handle.stopRequested = true) (o : Orders κ) :
    p.run? o.test o.registry o.settings o.now o.patience =
      some { p with handle := p.handle.setRunning false } :=
  rounds?_of_stop (p := { p with handle := p.handle.setRunning true }) h o.patience

/-- So do all patrols under such a handle. -/
lemma runAll?_of_stopRequested {p : Patrol κ} (h : p.handle.stopRequested = true)
    (hrunning : p.handle.running = false) (orders : List (Orders κ)) :
    p.runAll? orders = some p := by
  have hsame : { p with handle := p.handle.setRunning false } = p := by
    rw [Handle.setRunning, ← hrunning]
  induction orders with
  | nil => rfl
  | cons o orders ih =>
    rw [runAll?, List.foldlM_cons, run?_of_stopRequested h, hsame]
    exact ih

/-- **A patrol that is stopped from within, and one that is stopped already.**

Whatever the registry, the settings, the store and the counters: let a sweep have `c` candidates, at
least one, and let the test ask for the stop on its call number `p.test`.  The patrol ends after
`⌈p.test / c⌉` sweeps and not before.  The request is seen from the end of the last of these on;
each of them, the last included, goes through all candidates.  The handle then counts these sweeps
and what they wrote and failed to write, in 64-bit words; it is still stopped and no patrol is
running.  The history has grown by the records written.  Every later patrol leaves all this as it
is.

Under a handle that is stopped already, a patrol and every later one end before their first sweep:
nothing changes, but that no patrol is running.

**Proof sketch.** The stop has been requested after `j` sweeps if their `j * c` calls include it
(`handle_after`), and the patrol makes the sweeps that begin without a request (`rounds?_eq`). -/
theorem stop_run :
    (∀ (isAdmin : OwnerId → Bool) (registry : Registry) (settings : SweepSettings) (now : Int)
        (p : Patrol Nat), p.handle.stopRequested = false → 1 ≤ p.test →
        1 ≤ (candidates registry settings now).length →
      let test := stoppingTest isAdmin
      let c := (candidates registry settings now).length
      let sweeps := p.test ⌈/⌉ c
      let start : Patrol Nat := { p with handle := p.handle.setRunning true }
      let reports := start.reports test registry settings now sweeps
      ∃ last : Patrol Nat,
        (∀ fuel, p.run? test registry settings now fuel =
          if sweeps ≤ fuel then some last else none) ∧
        (∀ j, (start.after test registry settings now j).handle.stopRequested =
          decide (sweeps ≤ j)) ∧
        reports.length = sweeps ∧
        (∀ report ∈ reports, report.candidates = c ∧
          report.skippedAdmins + report.written + report.failed = c) ∧
        last.handle =
          { stopRequested := true
            ticks := p.handle.ticks + UInt64.ofNat sweeps
            recordsWritten :=
              p.handle.recordsWritten + UInt64.ofNat (reports.map Report.written).sum
            writeFailures := p.handle.writeFailures + UInt64.ofNat (reports.map Report.failed).sum
            running := false } ∧
        p.store.backend.records <+: last.store.backend.records ∧
        last.store.backend.records.length =
          p.store.backend.records.length + (reports.map Report.written).sum ∧
        ∀ orders, last.runAll? orders = some last) ∧
    ∀ (κ : Type) (p : Patrol κ) (orders : List (Orders κ)),
      p.handle.stopRequested = true → orders ≠ [] →
        p.runAll? orders = some { p with handle := p.handle.setRunning false } := by
  constructor
  · intro isAdmin registry settings now p hclear hcall hsome test c sweeps start reports
    have hhandle := handle_after isAdmin registry settings now (p := start) hclear hcall
    have hreached : ∀ j, p.test ≤ j * c ↔ sweeps ≤ j := fun j => by
      rw [ceilDiv_le_iff_le_mul hsome, Nat.mul_comm]
    have hstop : ∀ j, (start.after test registry settings now j).handle.stopRequested =
        decide (sweeps ≤ j) := fun j => by
      rw [hhandle j]
      exact decide_eq_decide.2 (hreached j)
    obtain ⟨hheld, hgrown⟩ := records_after test registry settings now sweeps start
    have hlast : (start.after test registry settings now sweeps).handle.setRunning false =
        { stopRequested := true
          ticks := p.handle.ticks + UInt64.ofNat sweeps
          recordsWritten :=
            p.handle.recordsWritten + UInt64.ofNat (reports.map Report.written).sum
          writeFailures := p.handle.writeFailures + UInt64.ofNat (reports.map Report.failed).sum
          running := false } := by
      rw [hhandle sweeps, ← decide_eq_true ((hreached sweeps).2 le_rfl)]
      rfl
    have hlength : reports.length = sweeps := by simp [reports, Patrol.reports]
    refine ⟨_, rounds?_eq fun j _ => hstop j, hstop, hlength, fun _ => counted_of_mem_reports,
      hlast, hheld, hgrown, fun orders => runAll?_of_stopRequested ?_ ?_ orders⟩
    · rw [hlast]
    · rw [hlast]
  · intro κ p orders hstopped hne
    obtain ⟨o, orders, rfl⟩ := List.exists_cons_of_ne_nil hne
    rw [runAll?, List.foldlM_cons, run?_of_stopRequested hstopped]
    exact runAll?_of_stopRequested (p := { p with handle := p.handle.setRunning false })
      hstopped rfl orders

/-- Two accounts are candidates, the medium refuses one of them, and the stop is asked for on the
third call: there are two sweeps, and the counter of sweeps goes through zero.  A patrol sent out
afterwards changes nothing, however long it is waited for. -/
theorem stop_run_third_call :
    let registry := ((Registry.empty ⟨2, 1⟩).run [⟨1, "a", .empty, 1⟩, ⟨2, "b", .empty, 2⟩]).1
    let settings : SweepSettings := { windowSecs := 10, threshold := 1 }
    let test := stoppingTest fun _ => false
    let p : Patrol Nat :=
      { handle := { ticks := 0xFFFFFFFFFFFFFFFF }
        test := 3
        store := { faults := { owners := [1] } } }
    let later : List (Orders Nat) := [⟨test, registry, settings, 11, 5⟩]
    p.handle.stopRequested = false ∧ 1 ≤ p.test ∧
      1 ≤ (candidates registry settings 11).length ∧
      p.run? test registry settings 11 1 = none ∧
      ∃ last, p.run? test registry settings 11 2 = some last ∧ last.handle.ticks = 1 ∧
        last.handle.stopRequested = true ∧ later ≠ [] ∧ last.runAll? later = some last := by
  intro registry settings test p later
  have hcandidates : (candidates registry settings 11).length = 2 := by
    have htasks := Registry.tasks_run_two_accounts .empty
    have hreached : registry.reaching 1 1 = {1, 2} := by
      simp [Registry.reaching, Registry.activeCount, registry, htasks]
    rw [length_candidates]
    exact congrArg Finset.card hreached
  have hsome : 1 ≤ (candidates registry settings 11).length := by omega
  obtain ⟨last, hrun, -, -, -, hhandle, -⟩ :=
    stop_run.1 (fun _ => false) registry settings 11 p rfl (by decide) hsome
  have hsweeps : 3 ⌈/⌉ (candidates registry settings 11).length = 2 := by
    rw [hcandidates]
    rfl
  simp only [hsweeps, p] at hrun
  have hticks : last.handle.ticks = 0xFFFFFFFFFFFFFFFF + UInt64.ofNat 2 := by
    rw [hhandle, hsweeps]
  have hstopped : last.handle.stopRequested = true := by rw [hhandle]
  have hrunning : last.handle.running = false := by rw [hhandle]
  have hlater := stop_run.2 Nat last later hstopped (List.cons_ne_nil _ _)
  refine ⟨rfl, by decide, hsome, hrun 1, last, hrun 2, hticks.trans (by decide), hstopped,
    List.cons_ne_nil _ _, hlater.trans ?_⟩
  rw [Handle.setRunning, ← hrunning]

end Patrol

end Audit

end InFlight
