import InFlight.Audit.Sweep
import InFlight.Error

/-!
# Settings of the service

## Main definitions

* `InFlight.Settings` — all settings, with their defaults.
* `InFlight.Settings.validate` — whether they fit together.
-/

set_option relaxedAutoImplicit false
set_option autoImplicit false

namespace InFlight

/-- The address to listen on, unless something else is set. -/
def Settings.defaultBind : String := "127.0.0.1"

/-- The port to listen on, unless something else is set. -/
def Settings.defaultPort : Nat := 3080

/-- The path of the history, unless something else is set. -/
def Settings.defaultHistoryDb : String := "slotwatch.sqlite"

/-- What is logged, unless something else is set. -/
def Settings.defaultLogFilter : String := "info"

/-- All settings, with their defaults. -/
structure Settings where
  bind : String := Settings.defaultBind
  port : Nat := Settings.defaultPort
  historyDb : String := Settings.defaultHistoryDb
  adminIds : List OwnerId := []
  logFilter : String := Settings.defaultLogFilter
  limits : Limits := {}
  scanner : Audit.SweepSettings := {}
deriving DecidableEq, Repr, Inhabited

namespace Settings

/-- Settings fit together when no slot limit is zero, no account may own more slots than there
are, and sweeps are some time apart; the first condition that fails is reported. -/
def validate (s : Settings) : Except Error Unit :=
  if s.limits.globalSlots = 0 ∨ s.limits.ownerSlots = 0 then
    .error (.invalidSettings .slotLimitZero)
  else if s.limits.globalSlots < s.limits.ownerSlots then
    .error (.invalidSettings .ownerSlotsExceedGlobal)
  else if s.scanner.intervalSecs = 0 then .error (.invalidSettings .intervalZero)
  else .ok ()

end Settings

end InFlight
