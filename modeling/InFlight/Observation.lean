import InFlight.Text.Blank

/-!
# Observations of a task

An observation says that an account is running a task now, and carries the payload by which
the task is recognised when it is seen again.  Account numbers are positive; this is the one
place where that is checked.

## Main definitions

* `InFlight.OwnerId` — the number of an account.
* `InFlight.Observation` — owner, display name and payload, with a positive owner.
* `InFlight.Observation.ofPayload?` — an observation with a given payload.
* `InFlight.Observation.ofRequest?` — an observation of a request to a model.
-/

set_option relaxedAutoImplicit false
set_option autoImplicit false

namespace InFlight

/-- The number of an account. -/
abbrev OwnerId := Int

/-- An account seen running a task. -/
structure Observation where
  owner : OwnerId
  name : String
  payload : ByteArray
  owner_pos : 0 < owner

namespace Observation

/-- The observation of a payload; none when the owner's number is not positive. -/
def ofPayload? (owner : OwnerId) (name : String) (payload : ByteArray) : Option Observation :=
  if h : 0 < owner then some { owner, name, payload, owner_pos := h } else none

/-- The request number that counts: trimmed, and none when nothing is left of it. -/
def requestNumber? (requestId : Option String) : Option String :=
  (requestId.map Text.trim).filter fun id => !id.isEmpty

/-- The payload text of a request to `model`: the model and the request number, or, without a
request number, the model, the owner and the time in nanoseconds, so that no two such
requests share a payload. -/
def requestText (owner : OwnerId) (model : String) (requestId : Option String)
    (nanos : Int) : String :=
  match requestNumber? requestId with
  | some id => model ++ ":" ++ id
  | none => model ++ ":" ++ toString owner ++ ":" ++ toString nanos

/-- The observation of a request to `model`; none when the owner's number is not positive. -/
def ofRequest? (owner : OwnerId) (name model : String) (requestId : Option String)
    (nanos : Int) : Option Observation :=
  ofPayload? owner name (requestText owner model requestId nanos).toUTF8

end Observation

end InFlight
