import InFlight.Audit.Sweep

/-!
# The patrol: sweeping until told to stop

A patrol waits one interval, sweeps, and starts over, until its handle asks it to stop.  A stop
request is seen at the start of the next wait; the sweep under way is completed.  The handle
counts sweeps and records in 64-bit words.

## Main definitions

* `InFlight.Audit.Handle` — the stop request, the counters and whether a patrol is running.
* `InFlight.Audit.Patrol` — where a patrol stands.
* `InFlight.Audit.Patrol.run?` — the patrol after it has ended.

## Design

The test for administrators acts on the handle and on a state of its own, so that it can ask
for a stop while a sweep is under way.  A patrol may go on forever; `run?` is given how many
sweeps to wait for, and gives none when the patrol is still going on after them.
-/

set_option relaxedAutoImplicit false
set_option autoImplicit false

namespace InFlight

namespace Audit

/-- The controls of a patrol: the stop request, its counters and whether it is running. -/
structure Handle where
  stopRequested : Bool := false
  ticks : UInt64 := 0
  recordsWritten : UInt64 := 0
  writeFailures : UInt64 := 0
  running : Bool := false
deriving DecidableEq, Repr

namespace Handle

/-- Asks for a stop. -/
def stop (h : Handle) : Handle := { h with stopRequested := true }

/-- Counts a sweep. -/
def recordTick (h : Handle) (report : Report) : Handle :=
  { h with
    ticks := h.ticks + 1
    recordsWritten := h.recordsWritten + UInt64.ofNat report.written
    writeFailures := h.writeFailures + UInt64.ofNat report.failed }

/-- Says whether a patrol is running. -/
def setRunning (h : Handle) (running : Bool) : Handle := { h with running }

/-- Whether a wait, of any length, ends because of a stop request, when nobody asks for one
during the wait. -/
def waitOrStop (h : Handle) : Bool := h.stopRequested

end Handle

variable {κ : Type}

/-- Where a patrol stands: its handle, the state of the test, and the store. -/
structure Patrol (κ : Type) where
  handle : Handle
  test : κ
  store : Store

namespace Patrol

/-- One sweep, counted. -/
def round (isAdmin : AdminTest (Handle × κ)) (registry : Registry) (settings : SweepSettings)
    (now : Int) (p : Patrol κ) : Patrol κ :=
  let s := sweep isAdmin (p.handle, p.test) registry p.store settings now
  { handle := s.test.1.recordTick s.report, test := s.test.2, store := s.store }

/-- The patrol once it has stopped, if it stops after at most `fuel` further sweeps. -/
def rounds? (isAdmin : AdminTest (Handle × κ)) (registry : Registry) (settings : SweepSettings)
    (now : Int) : Nat → Patrol κ → Option (Patrol κ)
  | fuel, p =>
    if p.handle.waitOrStop then some { p with handle := p.handle.setRunning false }
    else
      match fuel with
      | 0 => none
      | fuel + 1 =>
        rounds? isAdmin registry settings now fuel (p.round isAdmin registry settings now)

/-- A patrol from its start, if it stops after at most `fuel` sweeps. -/
def run? (isAdmin : AdminTest (Handle × κ)) (registry : Registry) (settings : SweepSettings)
    (now : Int) (fuel : Nat) (p : Patrol κ) : Option (Patrol κ) :=
  rounds? isAdmin registry settings now fuel { p with handle := p.handle.setRunning true }

end Patrol

/-- A test that asks for a stop on one of its calls: the state counts the calls still to come
before that one, and the answer depends on the account alone. -/
def stoppingTest (isAdmin : OwnerId → Bool) : AdminTest (Handle × Nat) := fun s owner =>
  let (handle, left) := s
  (isAdmin owner, (if left = 1 then handle.stop else handle, left - 1))

/-- A test that only answers. -/
def plainTest (isAdmin : OwnerId → Bool) : AdminTest (Handle × Unit) := fun s owner =>
  (isAdmin owner, s)

end Audit

end InFlight
