import InFlight.CommandLine.Report
import InFlight.CommandLine.Station

/-!
# Running a command

A run starts from a world and ends with an outcome, except that the service goes on.  The
commands that only read leave the files as they were; only a history that is listed is opened
for writing, so a file that holds nothing yet gets the empty table.

## Main definitions

* `InFlight.CommandLine.Ending`, `InFlight.CommandLine.Outcome` — how a run ends.
* `InFlight.CommandLine.Run` — a run that has ended, or a service that goes on.
* `InFlight.CommandLine.run` — the run of a list of words.
-/

set_option relaxedAutoImplicit false
set_option autoImplicit false

namespace InFlight

namespace CommandLine

/-! ## Outcomes -/

/-- How a run ends. -/
inductive Ending where
  | done
  | failed (e : Error)
  /-- The run is refused for a reason of its own, given as a line of text. -/
  | refused (reason : String)
  /-- The command line does not fit. -/
  | misused
deriving DecidableEq, Repr

namespace Ending

/-- The exit status. -/
def code : Ending → Nat
  | .done => 0
  | .failed _ => 1
  | .refused _ => 2
  | .misused => 2

/-- The line that a run writes about its end, if it has a reason of its own. -/
def complaint? : Ending → Option String
  | .refused reason => some (reason ++ "\n")
  | _ => none

end Ending

/-- What a run leaves: the files, what it has printed, and how it ended. -/
structure Outcome where
  files : FileTree
  output : String := ""
  ending : Ending := .done

/-- A run that has ended, or a service that goes on. -/
inductive Run where
  | ended (outcome : Outcome)
  | serving (files : FileTree) (station : Station)

/-! ## Commands -/

/-- The payload of a fingerprint. -/
def payload (w : World) : PayloadSource → Except Error ByteArray
  | .file path => (w.files.read path).mapError fun problem => .file problem none
  | .text text => .ok text.toUTF8
  | .input => .ok w.input

/-- Prints the fingerprint of a payload. -/
def printFingerprint (w : World) (source : PayloadSource) (asJson : Bool) : Outcome :=
  match payload w source with
  | .error e => { files := w.files, ending := .failed e }
  | .ok data =>
    { files := w.files
      output := if asJson then lines [(fingerprintJson data).indented] else fingerprintText data }

/-- Lists records of the audit history, and tells how many there are in all. -/
def printHistory (w : World) (db : String) (query : Audit.Query) (asJson : Bool) : Outcome :=
  if w.files.contains db then
    match Audit.openTable w.files db with
    | (files, .error e) => { files, ending := .failed e }
    | (files, .ok opened) =>
      match opened.listed? query with
      | none => { files, ending := .failed .database }
      | some records =>
        if asJson then { files, output := lines [(historyJson records).indented] }
        else
          match opened.count? with
          | some count =>
            { files, output := lines (historyLines records ++ [countLine records.length count]) }
          | none => { files, output := lines (historyLines records), ending := .failed .database }
  else { files := w.files, ending := .refused ("History database not found: " ++ db) }

/-- Writes a settings file with the defaults, unless something stands at its path. -/
def writeDefaults (w : World) (path : String) : Outcome :=
  if w.files.contains path then
    { files := w.files, ending := .refused ("Refusing to overwrite existing file: " ++ path) }
  else
    match Settings.save w.files path {} with
    | (files, some e) => { files, ending := .failed e }
    | (files, none) => { files, output := lines ["Wrote " ++ path] }

/-- Starts the service. -/
def startService (w : World) (o : ServeOptions) : Run :=
  match start w o with
  | (files, .error e) => .ended { files, ending := .failed e }
  | (files, .ok station) => .serving files station

/-! ## Any command line -/

/-- The version of the program. -/
def versionText : String := "slotwatch 0.0.2"

/-- How the program is used. -/
def helpText : List String := [
  "Usage: slotwatch <COMMAND>",
  "",
  "Commands:",
  "  serve        answer requests and audit the accounts",
  "  history      list records of the audit history",
  "  fingerprint  print the fingerprint of a payload",
  "  init-config  write a settings file with the defaults"]

/-- The run of a command. -/
def Command.run (w : World) : Command → Run
  | .serve o => startService w o
  | .history db query asJson => .ended (printHistory w db query asJson)
  | .fingerprint source asJson => .ended (printFingerprint w source asJson)
  | .initConfig path => .ended (writeDefaults w path)
  | .version => .ended { files := w.files, output := lines [versionText] }
  | .help => .ended { files := w.files, output := lines helpText }

/-- The run of a list of words. -/
def run (w : World) (words : List String) : Run :=
  match Command.ofWords? words with
  | none => .ended { files := w.files, ending := .misused }
  | some command => command.run w

end CommandLine

end InFlight
