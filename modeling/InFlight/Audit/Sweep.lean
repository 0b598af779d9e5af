import InFlight.Audit.Store
import InFlight.Registry.Activity

/-!
# A sweep over the registry

A sweep takes one ranking of the registry and appends a record for every account that reaches
the threshold, in ranking order, except for administrators.  A record that cannot be appended
is counted and dropped; the next sweep takes a fresh ranking.

The test for administrators may act on a state of its own while it answers; `σ` is the type of
that state.

## Main definitions

* `InFlight.Audit.SweepSettings` — how often, over which window and from which count on.
* `InFlight.Audit.Report` — what a sweep did.
* `InFlight.Audit.sweep` — the sweep; `InFlight.Audit.sweepPlain` — with a test that only answers.
-/

set_option relaxedAutoImplicit false
set_option autoImplicit false

namespace InFlight

namespace Audit

/-- How often to sweep, unless something else is set. -/
def SweepSettings.defaultIntervalSecs : Nat := 600

/-- The window of a sweep, unless something else is set. -/
def SweepSettings.defaultWindowSecs : Int := 600

/-- The count from which on an account is recorded, unless something else is set. -/
def SweepSettings.defaultThreshold : Nat := 5

/-- How often to sweep, over which window and from which count on. -/
structure SweepSettings where
  enabled : Bool := true
  intervalSecs : Nat := SweepSettings.defaultIntervalSecs
  windowSecs : Int := SweepSettings.defaultWindowSecs
  threshold : Nat := SweepSettings.defaultThreshold
deriving DecidableEq, Repr, Inhabited

/-- What a sweep did: the accounts that reached the threshold, and of these the administrators,
the records written and the records refused. -/
structure Report where
  candidates : Nat := 0
  skippedAdmins : Nat := 0
  written : Nat := 0
  failed : Nat := 0
deriving DecidableEq, Repr

/-- A test for administrators, acting on a state of type `σ`. -/
abbrev AdminTest (σ : Type) := σ → OwnerId → Bool × σ

/-- Where a sweep stands: the state of the test, the store and the report. -/
structure SweepState (σ : Type) where
  test : σ
  store : Store
  report : Report

variable {σ : Type}

/-- The record of an account at a time. -/
def recordOf (settings : SweepSettings) (now : Int) (row : Ranking.Row) : Record where
  id := 0
  owner := row.owner
  name := row.name
  activeSlots := row.activeSlots
  windowSecs := settings.windowSecs
  createdAt := now

/-- One account of the ranking. -/
def visit (isAdmin : AdminTest σ) (settings : SweepSettings) (now : Int)
    (s : SweepState σ) (row : Ranking.Row) : SweepState σ :=
  let (admin, test) := isAdmin s.test row.owner
  if admin then
    { s with test, report := { s.report with skippedAdmins := s.report.skippedAdmins + 1 } }
  else
    match s.store.append (recordOf settings now row) with
    | .ok (_, store) =>
      { test, store, report := { s.report with written := s.report.written + 1 } }
    | .error _ => { s with test, report := { s.report with failed := s.report.failed + 1 } }

/-- The accounts that a sweep looks at. -/
def candidates (registry : Registry) (settings : SweepSettings) (now : Int) :
    List Ranking.Row :=
  registry.highActive settings.windowSecs settings.threshold now

/-- A sweep. -/
def sweep (isAdmin : AdminTest σ) (test : σ) (registry : Registry) (store : Store)
    (settings : SweepSettings) (now : Int) : SweepState σ :=
  let rows := candidates registry settings now
  rows.foldl (visit isAdmin settings now)
    { test, store, report := { candidates := rows.length } }

/-- A sweep with a test that only answers: the store after it and the report. -/
def sweepPlain (isAdmin : OwnerId → Bool) (registry : Registry) (store : Store)
    (settings : SweepSettings) (now : Int) : Store × Report :=
  let s := sweep (fun (_ : Unit) owner => (isAdmin owner, ())) () registry store settings now
  (s.store, s.report)

end Audit

end InFlight
