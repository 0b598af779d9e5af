import Std.Time.Format
import InFlight.CommandLine.Run

/-!
# The program

The outer layer of the command line.  It reads what a command names (files, environment
variables, the standard input), runs the command on that, and carries out what has changed.

The service takes its requests from the standard input, one JSON object with the members
`method`, `target` and `body` on each line, and writes one response on each line of the
standard output; it stops at the end of the input.  Its patrol sweeps meanwhile.

## Main definitions

* `InFlight.Program.snapshot`, `InFlight.Program.restore` — files into a tree and back.
* `InFlight.Program.serve` — the service.
* `main` — the program.
-/

set_option relaxedAutoImplicit false
set_option autoImplicit false

namespace InFlight

namespace Program

/-! ## Files -/

/-- The paths that matter to the history of a name. -/
def historyPaths (name : String) : List String :=
  name :: match Database.Address.ofName? name with
    | some a =>
      let beside := [Database.Companion.journal, .log, .index, .lock].map fun c =>
        a.path ++ c.ending
      a.path :: beside ++ a.model.toList
    | none => []

/-- The paths that a command names. -/
def pathsOf : CommandLine.Command → List String
  | .serve o => [o.settingsFile]
  | .history db _ _ => historyPaths db
  | .fingerprint (.file path) _ => [path]
  | .initConfig path => [path, Settings.temporaryPath path]
  | _ => []

/-- The places that are met on the way from `here` along components, each with all places that
lead to it. -/
def placesFrom (here : Place) : List String → List Place
  | [] => [here]
  | c :: rest => here :: placesFrom (FileTree.follow here c) rest

/-- The places that matter to a path. -/
def placesOf (t : FileTree) (path : String) : List Place :=
  ((placesFrom (t.origin path) (Path.steps path)).flatMap fun p =>
    (List.range (p.length + 1)).map fun n => p.take n).eraseDups

/-- The path of a place from the root. -/
def absolute (place : Place) : String := "/" ++ String.intercalate "/" place

/-- The number of the system for the error of reading a directory as a file. -/
def directoryCode : UInt32 := 21

/-- What stands at a place. -/
def look (place : Place) : IO (Option FileNode) := do
  try
    return some (.file (← IO.FS.readBinFile (absolute place)))
  catch e =>
    match e with
    | .noFileOrDirectory .. => return none
    | .inappropriateType _ code _ =>
      return if code = directoryCode then some .directory else none
    | e => throw e

/-- The tree with what stands at the places that matter to a path. -/
def observePath (t : FileTree) (path : String) : IO FileTree :=
  (placesOf t path).foldlM
    (fun t place => do
      if place.isEmpty then return t
      match ← look place with
      | some node => return t.insert place node
      | none => return t)
    t

/-- The files that some paths lead to. -/
def snapshot (paths : List String) : IO FileTree := do
  let directory ← IO.currentDir
  paths.foldlM observePath { here := Path.steps (toString directory) }

/-- Carries out what has changed between two trees. -/
def restore (before after : FileTree) : IO Unit := do
  for (place, node) in after.entries.mergeSort (fun a b => decide (a.1.length ≤ b.1.length)) do
    if before.node? place != some node then
      match node with
      | .directory => IO.FS.createDirAll (absolute place)
      | .file content => IO.FS.writeBinFile (absolute place) content
  for (place, node) in before.entries do
    if (after.node? place).isNone && node != .directory then
      IO.FS.removeFile (absolute place)

/-! ## Environment and clock -/

/-- The variables that override settings. -/
def variableNames : List String :=
  ["SLOTWATCH_BIND", "SLOTWATCH_PORT", "SLOTWATCH_HISTORY_DB", "SLOTWATCH_ADMIN_IDS"]

/-- The environment variables that matter. -/
def environment : IO Environment := do
  let found ← variableNames.mapM fun name => do
    return (← IO.getEnv name).map fun value => (name, value.toUTF8)
  return found.filterMap id

/-- The time. -/
def now : IO Instant := do
  return ⟨(← Std.Time.Timestamp.now).toNanosecondsSinceUnixEpoch.val⟩

/-! ## The service -/

/-- The request that a line holds. -/
def request? (line : String) : Option Http.Request := do
  let fields ← (← Json.parse? line).fields? ["method", "target", "body"]
  let method ← fields.required? "method" Json.text?
  let target ← fields.required? "target" Json.text?
  let body ← fields.optional? "body" "" Json.text?
  return { method, target, body := { data := body.toUTF8 }, declared := some body.utf8ByteSize }

/-- A response as a line. -/
def responseLine (r : Http.Response) : String :=
  (Json.record [
    ("status", .nat r.status),
    ("content_type", (r.contentType.map Json.text).getD .null),
    ("text", .text r.text)]).compact

/-- The history file after a sweep. -/
def saveHistory (station : CommandLine.Station) : IO Unit := do
  match station.historyContent? with
  | some (place, content) => IO.FS.writeBinFile (absolute place) content
  | none => pure ()

/-- The patrol: sweeps after every interval until it is cancelled. -/
partial def patrol (state : IO.Ref CommandLine.Station) (waited : Nat) : IO Unit := do
  if ← IO.checkCanceled then return
  let station ← state.get
  if waited < 10 * station.settings.scanner.intervalSecs then
    IO.sleep 100
    patrol state (waited + 1)
  else
    let time ← now
    state.modify fun station => station.sweep time.seconds
    saveHistory (← state.get)
    patrol state 0

/-- Answers one request after the other. -/
partial def answer (state : IO.Ref CommandLine.Station) (input output : IO.FS.Stream) :
    IO Unit := do
  let line ← input.getLine
  if line.isEmpty then return
  match request? line with
  | none => output.putStrLn (responseLine (.ofReply { method := "", target := "" }
      (.error 400 "invalid request")))
  | some r =>
    let time ← now
    let response ← state.modifyGet fun station =>
      let (station, response) := station.respond r time
      (response, station)
    output.putStrLn (responseLine response)
  output.flush
  answer state input output

/-- The service until the end of the input. -/
def serve (station : CommandLine.Station) : IO Unit := do
  let state ← IO.mkRef station
  if station.patrols then
    let task ← IO.asTask (patrol state 0)
    answer state (← IO.getStdin) (← IO.getStdout)
    IO.cancel task
    let _ ← IO.wait task
  else answer state (← IO.getStdin) (← IO.getStdout)

/-! ## A run -/

/-- The paths that matter to the history that a command names by its settings. -/
def settledPaths (w : CommandLine.World) : CommandLine.Command → List String
  | .serve o =>
    match CommandLine.settingsFor w o with
    | .ok s => historyPaths s.historyDb
    | .error _ => []
  | _ => []

/-- What a command finds. -/
def worldFor (command : CommandLine.Command) : IO CommandLine.World := do
  let files ← snapshot (pathsOf command)
  let environment ← environment
  let input ← match command with
    | .fingerprint .input _ => (← IO.getStdin).readBinToEnd
    | _ => pure .empty
  let world : CommandLine.World := { files, environment, input }
  let files ← (settledPaths world command).foldlM observePath files
  return { world with files }

/-- Tells why a run has failed. -/
def complain : CommandLine.Ending → IO Unit
  | .failed e => IO.eprintln ("Error: " ++ e.message)
  | .misused => IO.eprintln "error: the command line does not fit; try --help"
  | ending => IO.eprint (ending.complaint?.getD "")

/-- Runs a command. -/
def runCommand (command : CommandLine.Command) : IO UInt32 := do
  let world ← worldFor command
  match command.run world with
  | .ended outcome =>
    restore world.files outcome.files
    IO.print outcome.output
    complain outcome.ending
    return outcome.ending.code.toUInt32
  | .serving files station =>
    restore world.files files
    serve station
    return 0

end Program

end InFlight

/-- The program. -/
def main (words : List String) : IO UInt32 :=
  match InFlight.CommandLine.Command.ofWords? words with
  | none => do
    InFlight.Program.complain .misused
    return 2
  | some command => InFlight.Program.runCommand command
