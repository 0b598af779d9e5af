import InFlight.Audit.Format
import InFlight.Calendar
import InFlight.Fingerprint
import InFlight.Json.Writer
import InFlight.Text.Column
import InFlight.Text.Hex

/-!
# What the commands print

Fingerprints and records of the audit history, each as lines for people or as JSON in the
indented layout.

## Main definitions

* `InFlight.CommandLine.fingerprintText`, `fingerprintJson` — the fingerprint of a payload.
* `InFlight.CommandLine.historyLines`, `historyJson` — records of the history.
-/

set_option relaxedAutoImplicit false
set_option autoImplicit false

namespace InFlight

namespace CommandLine

/-- Lines of text, each with its line end. -/
def lines (ls : List String) : String := String.join (ls.map fun l => l ++ "\n")

/-! ## Fingerprints -/

/-- One level of the fingerprint of a payload. -/
structure LevelReport where
  level : Fin 6
  threshold : Nat
  hash : String
  covered : Bool
deriving DecidableEq, Repr

/-- The levels of the fingerprint of a payload. -/
def levelReports (payload : ByteArray) (fp : Fingerprint) : List LevelReport :=
  (List.finRange 6).map fun i =>
    { level := i
      threshold := Fingerprint.thresholds.get i
      hash := Hex.encode (fp.levels.get i)
      covered := decide (Fingerprint.Covers payload.size i) }

/-- One level as a line; a level that the payload does not reach is marked. -/
def LevelReport.text (l : LevelReport) : String :=
  "  L" ++ toString l.level.val ++ " " ++ Column.right 6 (toString l.threshold) ++ ": " ++ l.hash ++
    (if l.covered then "" else " (partial)")

/-- One level as a JSON value. -/
def LevelReport.toJson (l : LevelReport) : Json :=
  .record [
    ("threshold", .nat l.threshold),
    ("hash", .text l.hash),
    ("covered", .bool l.covered)]

/-- The fingerprint of a payload as lines. -/
def fingerprintText (payload : ByteArray) : String :=
  let fp := Fingerprint.compute payload
  lines (("length: " ++ toString payload.size ++ " bytes, max_level: " ++
    toString fp.maxLevel.val) :: (levelReports payload fp).map LevelReport.text)

/-- The fingerprint of a payload as JSON. -/
def fingerprintJson (payload : ByteArray) : Json :=
  let fp := Fingerprint.compute payload
  .record [
    ("length", .nat payload.size),
    ("max_level", .nat fp.maxLevel.val),
    ("levels", .array ((levelReports payload fp).map LevelReport.toJson))]

/-! ## Records of the history -/

/-- The columns of a listing. -/
def historyRow (createdAt owner name slots window : String) : String :=
  Column.row [
    Column.left 19 createdAt,
    Column.right 8 owner,
    Column.left 20 name,
    Column.right 6 slots,
    Column.right 6 window]

/-- One record as a line. -/
def recordText (r : Audit.Record) : String :=
  historyRow (Calendar.format r.createdAt) (toString r.owner) r.name (toString r.activeSlots)
    (toString r.windowSecs)

/-- Records as lines. -/
def historyLines (records : List Audit.Record) : List String :=
  if records.isEmpty then ["No records."]
  else historyRow "created_at" "user_id" "username" "slots" "window" :: records.map recordText

/-- The line that tells how many of how many records there are. -/
def countLine (listed stored : Nat) : String :=
  toString listed ++ " of " ++ toString stored ++ " stored records"

/-- Records as JSON. -/
def historyJson (records : List Audit.Record) : Json := .array (records.map Audit.Record.toJson)

end CommandLine

end InFlight
