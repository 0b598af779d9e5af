import InFlight.Audit.Basic
import InFlight.Json.Fields

/-!
# Records as JSON

A record is an object with one member for each of its fields, in a fixed order.  Reading it
needs all of them.

## Main definitions

* `InFlight.Audit.Record.toJson` — writing a record.
* `InFlight.Audit.Record.ofJson?` — reading a record.
-/

set_option relaxedAutoImplicit false
set_option autoImplicit false

namespace InFlight

namespace Audit

namespace Record

/-- The names of all fields in order. -/
def fieldNames : List String :=
  ["id", "user_id", "username", "active_slots", "window_secs", "created_at"]

/-- A record as a JSON value. -/
def toJson (r : Record) : Json :=
  .record [
    ("id", .int r.id),
    ("user_id", .int r.owner),
    ("username", .text r.name),
    ("active_slots", .nat r.activeSlots),
    ("window_secs", .int r.windowSecs),
    ("created_at", .int r.createdAt)]

/-- The record that a JSON value holds. -/
def ofJson? (v : Json) : Option Record := do
  let fields ← v.fields? fieldNames
  let id ← fields.required? "id" Json.int64?
  let owner ← fields.required? "user_id" Json.int64?
  let name ← fields.required? "username" Json.text?
  let activeSlots ← fields.required? "active_slots" Json.word64?
  let windowSecs ← fields.required? "window_secs" Json.int64?
  let createdAt ← fields.required? "created_at" Json.int64?
  return { id, owner, name, activeSlots, windowSecs, createdAt }

end Record

end Audit

end InFlight
