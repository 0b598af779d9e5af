import Std.Data.TreeSet
import InFlight.Observation

/-!
# Administrators

Administrators are left out of the audit history.  They are given by a list of account
numbers, of which only the positive ones count.

## Main definitions

* `InFlight.Admins` — a set of account numbers.
* `InFlight.Admins.ofList`, `InFlight.Admins.isAdmin` — building it and asking it.
-/

set_option relaxedAutoImplicit false
set_option autoImplicit false

namespace InFlight

/-- A set of administrators. -/
structure Admins where
  ids : Std.TreeSet OwnerId := ∅

namespace Admins

/-- The administrators among a list of numbers: those that are positive. -/
def ofList (ids : List OwnerId) : Admins where
  ids := Std.TreeSet.ofList (ids.filter fun id => decide (0 < id))

/-- Whether an account is an administrator. -/
def isAdmin (a : Admins) (owner : OwnerId) : Bool := a.ids.contains owner

/-- How many administrators there are. -/
def size (a : Admins) : Nat := a.ids.size

/-- The administrators are the positive numbers of the list. -/
theorem isAdmin_ofList (ids : List OwnerId) (owner : OwnerId) :
    (ofList ids).isAdmin owner = true ↔ owner ∈ ids ∧ 0 < owner := by
  simp [isAdmin, ofList, Std.TreeSet.contains_ofList]

end Admins

end InFlight
