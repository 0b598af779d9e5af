/-!
# What can go wrong

The registry never fails.  Errors come from files, from the audit history, from settings and
from the listener, and each is given by its cause; the wording is in one place.

## Main definitions

* `InFlight.FileProblem` — why a file operation failed.
* `InFlight.SettingsProblem` — why settings are refused.
* `InFlight.Error` — all causes; `Error.message` is the text.
-/

set_option relaxedAutoImplicit false
set_option autoImplicit false

namespace InFlight

/-- Why a file operation failed. -/
inductive FileProblem where
  | notFound
  | notADirectory
  | isADirectory
  | alreadyExists
  | invalidFilename
  /-- The path holds a null character. -/
  | invalidInput
  | busy
  /-- The content is not UTF-8. -/
  | invalidData
deriving DecidableEq, Repr

/-- The text of a file problem. -/
def FileProblem.message : FileProblem → String
  | .notFound => "No such file or directory"
  | .notADirectory => "Not a directory"
  | .isADirectory => "Is a directory"
  | .alreadyExists => "File exists"
  | .invalidFilename => "File name too long"
  | .invalidInput => "file name contained an unexpected NUL byte"
  | .busy => "Device or resource busy"
  | .invalidData => "stream did not contain valid UTF-8"

/-- Why settings are refused. -/
inductive SettingsProblem where
  | slotLimitZero
  | ownerSlotsExceedGlobal
  | intervalZero
  | notAPort (text : String)
  | invalidAdminId (part : String)
deriving DecidableEq, Repr

/-- The text of a settings problem. -/
def SettingsProblem.message : SettingsProblem → String
  | .slotLimitZero => "slot limits must be positive"
  | .ownerSlotsExceedGlobal => "limits.owner_slots cannot exceed limits.global_slots"
  | .intervalZero => "scanner.interval_secs must be positive"
  | .notAPort text => "SLOTWATCH_PORT is not a port: " ++ text
  | .invalidAdminId part => "invalid admin id: " ++ part

/-- What can go wrong outside the registry. -/
inductive Error where
  /-- A file operation failed, on the given path if there is one to name. -/
  | file (problem : FileProblem) (path : Option String)
  /-- The audit history cannot be opened, written or read. -/
  | database
  /-- A text is not JSON, or not the JSON of what it should hold. -/
  | json
  | invalidSettings (problem : SettingsProblem)
  | server (detail : String)
deriving DecidableEq, Repr

/-- The text of an error. -/
def Error.message : Error → String
  | .file problem _ => "I/O error: " ++ problem.message
  | .database => "SQLite error: the audit history is not available"
  | .json => "JSON error: unexpected text"
  | .invalidSettings problem => "Invalid configuration: " ++ problem.message
  | .server detail => "HTTP server error: " ++ detail

end InFlight
