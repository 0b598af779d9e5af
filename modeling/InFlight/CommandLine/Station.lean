import InFlight.Admins
import InFlight.Audit.HistoryFile
import InFlight.Audit.Patrol
import InFlight.CommandLine.Command
import InFlight.Http.Exchange
import InFlight.Settings.File
import InFlight.Settings.Overrides

/-!
# Starting the service

The settings come from the settings file, then from the environment, then from the options;
they must fit together both in the file and in the end.  The history is opened before the
service listens, so its file is made even when listening fails.

## Main definitions

* `InFlight.CommandLine.World` — what a run of the program finds.
* `InFlight.CommandLine.settingsFor` — the settings of a run.
* `InFlight.CommandLine.Station` — a service that listens, with its patrol.
* `InFlight.CommandLine.start` — starting it.
-/

set_option relaxedAutoImplicit false
set_option autoImplicit false

namespace InFlight

namespace CommandLine

/-- What a run of the program finds: files, environment, input, and whether the service can
listen at an address and a port. -/
structure World where
  files : FileTree := {}
  environment : Environment := []
  input : ByteArray := .empty
  listens : String → Nat → Bool := fun _ _ => true

/-! ## Settings -/

/-- Settings with the options in place of what they override. -/
def ServeOptions.override (o : ServeOptions) (s : Settings) : Settings :=
  { s with bind := o.bind.getD s.bind, port := o.port.getD s.port }

/-- The settings of a run. -/
def settingsFor (w : World) (o : ServeOptions) : Except Error Settings :=
  match Settings.load w.files o.settingsFile with
  | .error e => .error e
  | .ok s =>
    match s.override w.environment.lookup? with
    | (_, some e) => .error e
    | (s, none) => (o.override s).validate.map fun _ => o.override s

/-! ## The station -/

/-- A service that listens: its settings, its state, the file of its history if it has one, the
controls of its patrol, and whether there is a patrol. -/
structure Station where
  settings : Settings
  service : Service
  historyFile : Option Audit.TableFile := none
  handle : Audit.Handle := {}
  patrols : Bool

namespace Station

/-- The service with an empty registry. -/
def ofHistory (s : Settings) (o : ServeOptions) (history : Audit.Backend)
    (historyFile : Option Audit.TableFile) : Station where
  settings := s
  service := { registry := .empty s.limits, history := { backend := history } }
  historyFile := historyFile
  patrols := s.scanner.enabled && !o.noScanner

/-- The station after one sweep of its patrol. -/
def sweep (s : Station) (now : Int) : Station :=
  let admins := Admins.ofList s.settings.adminIds
  let (history, report) :=
    Audit.sweepPlain admins.isAdmin s.service.registry s.service.history s.settings.scanner now
  { s with service := { s.service with history }, handle := s.handle.recordTick report }

/-- The station after a request, and the response. -/
def respond (s : Station) (r : Http.Request) (now : Instant) : Station × Http.Response :=
  let (service, response) := Http.respond s.service r now
  ({ s with service }, response)

/-- The place and the content of the history file, if there is one that may be changed. -/
def historyContent? (s : Station) : Option (Place × ByteArray) :=
  match s.historyFile, s.service.history.backend with
  | some file, .table (some t) => some (file.place, t.toContent file.logged)
  | _, _ => none

end Station

/-- The error of an address at which the service cannot listen. -/
def cannotListen (s : Settings) : Error :=
  .server (s.bind ++ ":" ++ toString s.port ++ ": the address is not available")

/-- Starts the service: the files afterwards, and the station or what went wrong. -/
def start (w : World) (o : ServeOptions) : FileTree × Except Error Station :=
  match settingsFor w o with
  | .error e => (w.files, .error e)
  | .ok s =>
    match Audit.openHistory w.files s.historyDb with
    | (files, .error e) => (files, .error e)
    | (files, .ok (history, file)) =>
      if w.listens s.bind s.port then (files, .ok (Station.ofHistory s o history file))
      else (files, .error (cannotListen s))

end CommandLine

end InFlight
