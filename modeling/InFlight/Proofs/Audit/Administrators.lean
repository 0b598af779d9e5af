import Mathlib.Tactic.Lemma
import InFlight.Audit.Sweep

/-!
# Sweeps and administrators

Administrators are left out of a sweep, and that is all that they have to do with it: the sweep goes
through the other accounts as if there were no administrators among the candidates, and counts those
that it left out.

## Main definitions

* `InFlight.Audit.Report.plus` — two reports counted together.
* `InFlight.Audit.sweepRows` — a sweep through given accounts, with nobody left out.
* `InFlight.Audit.SweepState.after` — where a sweep stands, with more counted before it.

## Main results

* `InFlight.Audit.sweepPlain_eq` — a sweep is one through the accounts that are no administrators.
-/

set_option relaxedAutoImplicit false
set_option autoImplicit false

namespace InFlight

namespace Audit

/-- Two reports counted together. -/
def Report.plus (a b : Report) : Report where
  candidates := a.candidates + b.candidates
  skippedAdmins := a.skippedAdmins + b.skippedAdmins
  written := a.written + b.written
  failed := a.failed + b.failed

/-- Reports are added in any grouping. -/
lemma Report.plus_assoc (a b c : Report) : (a.plus b).plus c = a.plus (b.plus c) := by
  simp only [plus, Nat.add_assoc]

/-- The test that only answers. -/
abbrev pureTest (isAdmin : OwnerId → Bool) : AdminTest Unit := fun _ owner => (isAdmin owner, ())

/-- A sweep that has not visited or counted anything. -/
def SweepState.start (store : Store) : SweepState Unit := { test := (), store, report := {} }

/-- A sweep through given accounts, with nobody left out. -/
def sweepRows (settings : SweepSettings) (now : Int) (s : SweepState Unit)
    (rows : List Ranking.Row) : SweepState Unit :=
  rows.foldl (visit (pureTest fun _ => false) settings now) s

/-- Where a sweep stands, with more counted before it. -/
def SweepState.after (s : SweepState Unit) (before : Report) : SweepState Unit :=
  { s with report := before.plus s.report }

variable {isAdmin : OwnerId → Bool} {settings : SweepSettings} {now : Int}

/-- What was reported before is added up. -/
lemma SweepState.after_after (s : SweepState Unit) (a b : Report) :
    (s.after b).after a = s.after (a.plus b) := by
  simp only [after, Report.plus_assoc]

/-- An administrator is counted, and nothing else happens. -/
lemma visit_admin (s : SweepState Unit) {row : Ranking.Row} (h : isAdmin row.owner = true) :
    visit (pureTest isAdmin) settings now s row = s.after { skippedAdmins := 1 } := by
  simp [visit, h, SweepState.after, Report.plus, Nat.add_comm]

/-- With other accounts it does not matter who the administrators are. -/
lemma visit_other (s : SweepState Unit) {row : Ranking.Row} (h : isAdmin row.owner = false) :
    visit (pureTest isAdmin) settings now s row =
      visit (pureTest fun _ => false) settings now s row := by
  simp only [visit, h]

/-- What was counted before is not looked at. -/
lemma visit_after (s : SweepState Unit) (before : Report) (row : Ranking.Row) :
    visit (pureTest fun _ => false) settings now (s.after before) row =
      (visit (pureTest fun _ => false) settings now s row).after before := by
  simp only [visit, SweepState.after]
  cases s.store.append (recordOf settings now row) <;> simp [Report.plus, Nat.add_assoc]

/-- What was reported before a sweep only adds to its report. -/
lemma sweepRows_after (s : SweepState Unit) (before : Report) (rows : List Ranking.Row) :
    sweepRows settings now (s.after before) rows =
      (sweepRows settings now s rows).after before := by
  unfold sweepRows
  induction rows generalizing s with
  | nil => rfl
  | cons row rows ih => rw [List.foldl_cons, List.foldl_cons, visit_after, ih]

/-- Going through accounts some of which are administrators: the others are visited, in the same
order, and the administrators are counted.

**Proof sketch.** Induction on the accounts.  What is counted for an administrator is not looked at
later on, so it may as well be counted at the end. -/
lemma foldl_visit (s : SweepState Unit) (rows : List Ranking.Row) :
    rows.foldl (visit (pureTest isAdmin) settings now) s =
      (sweepRows settings now s (rows.filter fun row => !isAdmin row.owner)).after
        { skippedAdmins := rows.countP fun row => isAdmin row.owner } := by
  induction rows generalizing s with
  | nil => simp [sweepRows, SweepState.after, Report.plus]
  | cons row rows ih =>
    rw [List.foldl_cons, ih]
    cases hrow : isAdmin row.owner with
    | true =>
      rw [visit_admin s hrow, sweepRows_after, SweepState.after_after]
      simp [hrow, Report.plus]
    | false =>
      rw [visit_other s hrow]
      simp [hrow, sweepRows]

/-- With nobody left out, nobody is counted as left out. -/
lemma report_sweepRows (s : SweepState Unit) (rows : List Ranking.Row) :
    (sweepRows settings now s rows).report.candidates = s.report.candidates ∧
      (sweepRows settings now s rows).report.skippedAdmins = s.report.skippedAdmins := by
  unfold sweepRows
  induction rows generalizing s with
  | nil => exact ⟨rfl, rfl⟩
  | cons row rows ih =>
    have hvisit : (visit (pureTest fun _ => false) settings now s row).report.candidates =
          s.report.candidates ∧
        (visit (pureTest fun _ => false) settings now s row).report.skippedAdmins =
          s.report.skippedAdmins := by
      simp only [visit]
      cases s.store.append (recordOf settings now row) <;> exact ⟨rfl, rfl⟩
    rw [List.foldl_cons, (ih _).1, (ih _).2]
    exact hvisit

/-- **Exactly the administrators are left out**: a sweep leaves the store as a sweep through the
other candidates does, in the order of the ranking, and reports what that one does, apart from the
candidates, all of which it counts, and from the administrators. -/
theorem sweepPlain_eq (isAdmin : OwnerId → Bool) (registry : Registry) (store : Store)
    (settings : SweepSettings) (now : Int) :
    let rows := candidates registry settings now
    let others := sweepRows settings now (SweepState.start store)
      (rows.filter fun row => !isAdmin row.owner)
    sweepPlain isAdmin registry store settings now =
      (others.store,
        { others.report with
          candidates := rows.length
          skippedAdmins := rows.countP fun row => isAdmin row.owner }) := by
  intro rows others
  have hzero : others.report.candidates = 0 ∧ others.report.skippedAdmins = 0 :=
    report_sweepRows (SweepState.start store) _
  have hsweep : sweep (pureTest isAdmin) () registry store settings now =
      others.after
        { candidates := rows.length
          skippedAdmins := rows.countP fun row => isAdmin row.owner } := by
    have hbegin : sweep (pureTest isAdmin) () registry store settings now =
        rows.foldl (visit (pureTest isAdmin) settings now)
          ((SweepState.start store).after { candidates := rows.length }) := rfl
    rw [hbegin, foldl_visit, sweepRows_after, SweepState.after_after]
    simp [Report.plus, others]
  have hplain : sweepPlain isAdmin registry store settings now =
      ((sweep (pureTest isAdmin) () registry store settings now).store,
        (sweep (pureTest isAdmin) () registry store settings now).report) := rfl
  rw [hplain, hsweep]
  simp only [SweepState.after, Report.plus, hzero, Nat.add_zero, Nat.zero_add]

end Audit

end InFlight
