import InFlight.Audit.Basic
import InFlight.CommandLine.Arguments
import InFlight.Text.Decimal

/-!
# Commands

The first word names a command, or asks for help or the version; the words behind the name are
the options and operands of the command.  A command line that does not fit is refused as a
whole.

## Main definitions

* `InFlight.CommandLine.Command` — what the program is asked to do.
* `InFlight.CommandLine.Command.ofWords?` — the command that a list of words gives.
-/

set_option relaxedAutoImplicit false
set_option autoImplicit false

namespace InFlight

namespace CommandLine

/-! ## Commands -/

/-- How to start the service. -/
structure ServeOptions where
  settingsFile : String := "slotwatch.json"
  bind : Option String := none
  port : Option Nat := none
  noScanner : Bool := false
deriving DecidableEq, Repr

/-- Where a payload comes from. -/
inductive PayloadSource where
  | file (path : String)
  | text (text : String)
  | input
deriving DecidableEq, Repr

/-- What the program is asked to do. -/
inductive Command where
  /-- Answer requests until told to stop. -/
  | serve (options : ServeOptions)
  /-- List records of the audit history. -/
  | history (db : String) (query : Audit.Query) (asJson : Bool)
  /-- Print the fingerprint of a payload. -/
  | fingerprint (source : PayloadSource) (asJson : Bool)
  /-- Write a settings file with the defaults. -/
  | initConfig (path : String)
  /-- Print the version. -/
  | version
  /-- Print how the program is used. -/
  | help
deriving DecidableEq, Repr

/-! ## Values of options -/

/-- The value of an option, or a default when the option is not given; none when the value
cannot be read. -/
def Arguments.valueOr? {α : Type} (a : Arguments) (name : String) (default : α)
    (read : String → Option α) : Option α :=
  match a.value? name with
  | some value => read value
  | none => some default

/-- The value of an option, if the option is given; none when the value cannot be read. -/
def Arguments.maybe? {α : Type} (a : Arguments) (name : String) (read : String → Option α) :
    Option (Option α) :=
  a.valueOr? name none fun value => (read value).map some

namespace Command

/-! ## One command after the other -/

/-- The option that asks for help. -/
def helpChoice : Choice := { name := "help", letter := some 'h', role := .help }

/-- What `serve` understands. -/
def serveGrammar : Grammar where
  choices := [
    { name := "config", letter := some 'c', role := .value .path },
    { name := "bind", role := .value .text },
    { name := "port", role := .value .port },
    { name := "no-scanner", role := .flag },
    helpChoice]

/-- The command that the arguments of `serve` give. -/
def ofServe? (a : Arguments) : Option Command := do
  let settingsFile ← a.valueOr? "config" ({} : ServeOptions).settingsFile path?
  let bind ← a.maybe? "bind" some
  let port ← a.maybe? "port" port?
  return .serve { settingsFile, bind, port, noScanner := a.given "no-scanner" }

/-- What `history` understands. -/
def historyGrammar : Grammar where
  choices := [
    { name := "db", role := .value .path },
    { name := "start", role := .value .number },
    { name := "end", role := .value .number },
    { name := "owner", role := .value .number },
    { name := "limit", letter := some 'n', role := .value .number },
    { name := "json", role := .flag },
    helpChoice]

/-- The command that the arguments of `history` give. -/
def ofHistory? (a : Arguments) : Option Command := do
  let db ← a.valueOr? "db" "slotwatch.sqlite" path?
  let startTime ← a.valueOr? "start" 0 Decimal.int64?
  let endTime ← a.valueOr? "end" 0 Decimal.int64?
  let owner ← a.valueOr? "owner" 0 Decimal.int64?
  let limit ← a.valueOr? "limit" 0 Decimal.int64?
  return .history db { startTime, endTime, owner, limit } (a.given "json")

/-- What `fingerprint` understands. -/
def fingerprintGrammar : Grammar where
  choices := [
    { name := "file", role := .value .path },
    { name := "text", role := .value .text },
    { name := "json", role := .flag },
    helpChoice]

/-- The payload of a fingerprint: a file or a text, not both, or else the input. -/
def payloadSource? (file text : Option String) : Option PayloadSource :=
  match file, text with
  | some _, some _ => none
  | some path, none => some (.file path)
  | none, some text => some (.text text)
  | none, none => some .input

/-- The command that the arguments of `fingerprint` give. -/
def ofFingerprint? (a : Arguments) : Option Command := do
  let file ← a.maybe? "file" path?
  let text ← a.maybe? "text" some
  let source ← payloadSource? file text
  return .fingerprint source (a.given "json")

/-- What `init-config` understands. -/
def initConfigGrammar : Grammar where
  choices := [helpChoice]
  operands := [.path]

/-- The command that the arguments of `init-config` give. -/
def ofInitConfig? (a : Arguments) : Option Command :=
  match a.operands with
  | [path] => (path? path).map .initConfig
  | _ => none

/-! ## All commands -/

/-- The names of the commands. -/
def names : List String := ["serve", "history", "fingerprint", "init-config", "help"]

/-- What can stand in place of a command. -/
def programGrammar : Grammar where
  choices := [helpChoice, { name := "version", letter := some 'V', role := .version }]

/-- The command that words come to, by the command that their arguments give. -/
def ofReading? (read? : Arguments → Option Command) : Reading → Option Command
  | .given a => read? a
  | .help => some .help
  | .version => some .version
  | .refused => none

/-- The command that asks for help on a topic: on nothing, or on one command. -/
def ofHelp? : List String → Option Command
  | [] => some .help
  | [topic] => if names.contains topic then some .help else none
  | _ => none

/-- The command that a list of words gives. -/
def ofWords? : List String → Option Command
  | "serve" :: rest => ofReading? ofServe? (serveGrammar.read rest)
  | "history" :: rest => ofReading? ofHistory? (historyGrammar.read rest)
  | "fingerprint" :: rest => ofReading? ofFingerprint? (fingerprintGrammar.read rest)
  | "init-config" :: rest => ofReading? ofInitConfig? (initConfigGrammar.read rest)
  | "help" :: rest => ofHelp? rest
  | words => ofReading? (fun _ => none) (programGrammar.read words)

end Command

end CommandLine

end InFlight
