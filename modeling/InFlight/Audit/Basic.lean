import InFlight.Observation

/-!
# The audit history

Whenever an account is found with too many tasks in flight, a record of it is appended to the
audit history.  Records are never changed or removed.

## Main definitions

* `InFlight.Audit.Record` — one entry of the history.
* `InFlight.Audit.Query` — which records are asked for; `Query.accepts`, `Query.effectiveLimit`.
* `InFlight.Audit.newerFirst` — the order in which records are listed.
-/

set_option relaxedAutoImplicit false
set_option autoImplicit false

namespace InFlight

namespace Audit

/-- One entry: an account, the name it was ranked under, how many active slots it had in a
window of so many seconds, and when. -/
structure Record where
  /-- Assigned by the history; zero before that. -/
  id : Int
  owner : OwnerId
  name : String
  activeSlots : Nat
  windowSecs : Int
  createdAt : Int
deriving DecidableEq, Repr

/-- Which records are asked for.  A bound or an owner that is not positive asks for
nothing in particular. -/
structure Query where
  startTime : Int := 0
  endTime : Int := 0
  owner : OwnerId := 0
  limit : Int := 0
deriving DecidableEq, Repr

/-- How many records are listed when no limit is asked for. -/
def defaultLimit : Int := 100

namespace Query

/-- How many records are listed at most. -/
def effectiveLimit (q : Query) : Int := if q.limit ≤ 0 then defaultLimit else q.limit

/-- Whether a record is asked for. -/
def accepts (q : Query) (r : Record) : Bool :=
  (decide (q.startTime ≤ 0) || decide (q.startTime ≤ r.createdAt)) &&
    (decide (q.endTime ≤ 0) || decide (r.createdAt ≤ q.endTime)) &&
    (decide (q.owner ≤ 0) || decide (r.owner = q.owner))

end Query

/-- Records are listed by descending time, and by descending number at equal times. -/
def newerFirst (a b : Record) : Bool :=
  decide (b.createdAt < a.createdAt ∨ (b.createdAt = a.createdAt ∧ b.id ≤ a.id))

end Audit

end InFlight
