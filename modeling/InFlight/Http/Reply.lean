import InFlight.Audit.Basic
import InFlight.Json.Writer
import InFlight.Registry.Activity

/-!
# Replies

A reply has a status and a JSON body.  The body of a success carries data, the body of an
error a message.  Members are listed in the alphabetical order of their keys.

## Main definitions

* `InFlight.Http.Reply` — status and body; `Reply.success`, `Reply.error`.
* `InFlight.Ranking.Row.toJson`, `InFlight.Stats.toJson`, `InFlight.Http.recordData` — the data.
-/

set_option relaxedAutoImplicit false
set_option autoImplicit false

namespace InFlight

/-! ## Data -/

/-- A row of the ranking. -/
def Ranking.Row.toJson (row : Ranking.Row) : Json :=
  .record [
    ("active_slots", .nat row.activeSlots),
    ("user_id", .int row.owner),
    ("username", .text row.name)]

/-- Counts of slots and accounts. -/
def Stats.toJson (s : Stats) : Json :=
  .record [
    ("active_slots", .nat s.activeSlots),
    ("active_users", .nat s.activeOwners),
    ("max_global_slots", .nat s.maxGlobalSlots),
    ("max_user_slots", .nat s.maxOwnerSlots),
    ("total_slots", .nat s.totalSlots),
    ("window_seconds", .int s.windowSeconds)]

/-! ## Replies -/

namespace Http

/-- A record of the audit history. -/
def recordData (r : Audit.Record) : Json :=
  .record [
    ("active_slots", .nat r.activeSlots),
    ("created_at", .int r.createdAt),
    ("id", .int r.id),
    ("user_id", .int r.owner),
    ("username", .text r.name),
    ("window_secs", .int r.windowSecs)]

/-- A status and a body. -/
structure Reply where
  status : Nat
  body : Json

namespace Reply

/-- The reply to a request that succeeded. -/
def success (data : Json) : Reply where
  status := 200
  body := .record [("data", data), ("success", .bool true)]

/-- The reply to a request that failed. -/
def error (status : Nat) (message : String) : Reply where
  status := status
  body := .record [("message", .text message), ("success", .bool false)]

/-- The body as it is sent. -/
def text (r : Reply) : String := r.body.compact

end Reply

end Http

end InFlight
