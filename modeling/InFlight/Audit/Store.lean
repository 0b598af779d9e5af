import InFlight.Audit.Journal
import InFlight.Audit.Table
import InFlight.Error

/-!
# The store behind the audit history

The history is kept in memory or in a table.  Appending and listing can fail: the table may be
gone or sealed, and the medium may refuse the records of some accounts or refuse to be read.
A failed operation changes nothing.

## Main definitions

* `InFlight.Audit.Backend` — where the history is kept.
* `InFlight.Audit.Faults` — what the medium refuses.
* `InFlight.Audit.Store` — a backend on a medium; `Store.append`, `Store.select`.
-/

set_option relaxedAutoImplicit false
set_option autoImplicit false

namespace InFlight

namespace Audit

/-- Where the history is kept; a table may be gone, and one that is sealed can only be
listed. -/
inductive Backend where
  | journal (j : Journal)
  | table (t : Option Table)
  | sealed (t : Table)
deriving DecidableEq, Repr

namespace Backend

/-- Appends a record; gives its number. -/
def append (b : Backend) (r : Record) : Except Error (Int × Backend) :=
  match b with
  | .journal j => let (id, j) := j.append r; .ok (id, .journal j)
  | .table (some t) => let (id, t) := t.append r; .ok (id, .table (some t))
  | .table none => .error .database
  | .sealed _ => .error .database

/-- The records that are asked for. -/
def select (b : Backend) (q : Query) : Except Error (List Record) :=
  match b with
  | .journal j => .ok (j.select q)
  | .table (some t) => .ok (t.select q)
  | .table none => .error .database
  | .sealed t => .ok (t.select q)

end Backend

/-- What the medium refuses: the records of some accounts, and being read at all. -/
structure Faults where
  owners : List OwnerId := []
  reading : Bool := false
deriving DecidableEq, Repr

/-- The error of a medium that refuses. -/
def Faults.error : Error := .server "disk full"

/-- A history on a medium. -/
structure Store where
  backend : Backend := .journal {}
  faults : Faults := {}
deriving DecidableEq, Repr

namespace Store

/-- Appends a record; gives its number. -/
def append (s : Store) (r : Record) : Except Error (Int × Store) :=
  if s.faults.owners.contains r.owner then .error Faults.error
  else (s.backend.append r).map fun (id, backend) => (id, { s with backend })

/-- The records that are asked for. -/
def select (s : Store) (q : Query) : Except Error (List Record) :=
  if s.faults.reading then .error Faults.error else s.backend.select q

end Store

end Audit

end InFlight
