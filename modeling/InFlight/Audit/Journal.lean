import InFlight.Audit.Basic

/-!
# The history kept in memory

Records in the order in which they were appended, numbered from one.

## Main definitions

* `InFlight.Audit.Journal` — the records.
* `InFlight.Audit.Journal.append`, `InFlight.Audit.Journal.select` — adding and listing them.
-/

set_option relaxedAutoImplicit false
set_option autoImplicit false

namespace InFlight

namespace Audit

/-- Records in the order in which they were appended. -/
structure Journal where
  records : Array Record := #[]
deriving DecidableEq, Repr

namespace Journal

/-- The number of the next record. -/
def nextId (j : Journal) : Int := j.records.size + 1

/-- Appends a record under the next number, whatever number it carried; gives the number. -/
def append (j : Journal) (r : Record) : Int × Journal :=
  (j.nextId, { records := j.records.push { r with id := j.nextId } })

/-- All records that are asked for, newest first. -/
def selectAll (j : Journal) (q : Query) : List Record :=
  (j.records.toList.filter q.accepts).mergeSort newerFirst

/-- The records that are asked for, newest first and no more than the limit. -/
def select (j : Journal) (q : Query) : List Record :=
  (j.selectAll q).take q.effectiveLimit.toNat

end Journal

end Audit

end InFlight
