import InFlight.Json.Fields
import InFlight.Json.Reader
import InFlight.Json.Writer
import InFlight.Settings.Basic

/-!
# Settings as JSON

Every field may be left out, in which case it has a default of its own, also inside the slot
limits and the sweep settings.  Fields are written in one fixed order, in the indented layout.

## Main definitions

* `InFlight.Limits.ofJson?`, `InFlight.Audit.SweepSettings.ofJson?`,
  `InFlight.Settings.ofJson?` — reading.
* `InFlight.Settings.toJson`, `InFlight.Settings.toText` — writing.
-/

set_option relaxedAutoImplicit false
set_option autoImplicit false

namespace InFlight

/-! ## Reading -/

/-- The names of the slot limits, in the order in which they are written. -/
def Limits.fieldNames : List String := ["global_slots", "owner_slots"]

/-- Slot limits, as far as they are given. -/
def Limits.ofJson? (v : Json) : Option Limits := do
  let fields ← v.fields? fieldNames
  let globalSlots ← fields.optional? "global_slots" defaultGlobalSlots Json.word64?
  let ownerSlots ← fields.optional? "owner_slots" defaultOwnerSlots Json.word64?
  return { globalSlots, ownerSlots }

/-- The names of the sweep settings, in the order in which they are written. -/
def Audit.SweepSettings.fieldNames : List String :=
  ["enabled", "interval_secs", "window_secs", "threshold"]

/-- Sweep settings, as far as they are given. -/
def Audit.SweepSettings.ofJson? (v : Json) : Option Audit.SweepSettings := do
  let fields ← v.fields? fieldNames
  let enabled ← fields.optional? "enabled" true Json.bool?
  let intervalSecs ← fields.optional? "interval_secs" defaultIntervalSecs Json.word64?
  let windowSecs ← fields.optional? "window_secs" defaultWindowSecs Json.int64?
  let threshold ← fields.optional? "threshold" defaultThreshold Json.word64?
  return { enabled, intervalSecs, windowSecs, threshold }

namespace Settings

/-- The names of all settings, in the order in which they are written. -/
def fieldNames : List String :=
  ["bind", "port", "history_db", "admin_ids", "log_filter", "limits", "scanner"]

/-- Settings, as far as they are given. -/
def ofJson? (v : Json) : Option Settings := do
  let fields ← v.fields? fieldNames
  let bind ← fields.optional? "bind" defaultBind Json.text?
  let port ← fields.optional? "port" defaultPort (Json.nat? 65535)
  let historyDb ← fields.optional? "history_db" defaultHistoryDb Json.text?
  let adminIds ← fields.optional? "admin_ids" [] (Json.listOf? Json.int64?)
  let logFilter ← fields.optional? "log_filter" defaultLogFilter Json.text?
  let limits ← fields.optional? "limits" {} Limits.ofJson?
  let scanner ← fields.optional? "scanner" {} Audit.SweepSettings.ofJson?
  return { bind, port, historyDb, adminIds, logFilter, limits, scanner }

/-- The settings that a text writes. -/
def parse (text : String) : Except Error Settings :=
  match (Json.parse? text).bind ofJson? with
  | some s => .ok s
  | none => .error .json

/-! ## Writing -/

/-- Settings as a JSON value. -/
def toJson (s : Settings) : Json :=
  .record [
    ("bind", .text s.bind),
    ("port", .nat s.port),
    ("history_db", .text s.historyDb),
    ("admin_ids", .array (s.adminIds.map Json.int)),
    ("log_filter", .text s.logFilter),
    ("limits", .record [
      ("global_slots", .nat s.limits.globalSlots),
      ("owner_slots", .nat s.limits.ownerSlots)]),
    ("scanner", .record [
      ("enabled", .bool s.scanner.enabled),
      ("interval_secs", .nat s.scanner.intervalSecs),
      ("window_secs", .int s.scanner.windowSecs),
      ("threshold", .nat s.scanner.threshold)])]

/-- Settings as a text. -/
def toText (s : Settings) : String := s.toJson.indented

end Settings

end InFlight
