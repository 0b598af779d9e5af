import InFlight.Settings.Basic
import InFlight.Text.Blank
import InFlight.Text.Decimal
import InFlight.Text.Split
import InFlight.Text.Utf8

/-!
# Settings from the environment

Four environment variables override settings, one after the other.  A variable whose text
cannot be read stops there: what was overridden before it stays.

## Main definitions

* `InFlight.Environment` — the variables; `Environment.lookup?` — one of them, if it says something.
* `InFlight.Settings.idList` — a comma-separated list of account numbers.
* `InFlight.Settings.override` — the settings after the overrides.
-/

set_option relaxedAutoImplicit false
set_option autoImplicit false

namespace InFlight

/-- The variables with their values, which need not be UTF-8. -/
abbrev Environment := List (String × ByteArray)

/-- The trimmed value of a variable; one that is not UTF-8 or blank counts as unset. -/
def Environment.lookup? (env : Environment) (name : String) : Option String :=
  (((env.lookup name).bind Utf8.decode?).map Text.trim).filter fun value => !value.isEmpty

namespace Settings

/-! ## Account numbers -/

/-- One account number. -/
def adminId (part : String) : Except Error OwnerId :=
  match Decimal.int64? part with
  | some id => .ok id
  | none => .error (.invalidSettings (.invalidAdminId part))

/-- A comma-separated list of account numbers; blanks around them and blank parts are
dropped, and the first part that is no number is reported. -/
def idList (raw : String) : Except Error (List OwnerId) :=
  (((Text.split ',' raw).map Text.trim).filter fun part => !part.isEmpty).mapM adminId

/-! ## Overrides -/

/-- The greatest port. -/
def maxPort : Nat := 65535

/-- The address to listen at. -/
def overrideBind (lookup : String → Option String) (s : Settings) : Settings :=
  match lookup "SLOTWATCH_BIND" with
  | some bind => { s with bind }
  | none => s

/-- The port to listen at. -/
def overridePort (lookup : String → Option String) (s : Settings) : Except Error Settings :=
  match lookup "SLOTWATCH_PORT" with
  | some text =>
    match Decimal.natural? maxPort text with
    | some port => .ok { s with port }
    | none => .error (.invalidSettings (.notAPort text))
  | none => .ok s

/-- The history file. -/
def overrideHistory (lookup : String → Option String) (s : Settings) : Settings :=
  match lookup "SLOTWATCH_HISTORY_DB" with
  | some historyDb => { s with historyDb }
  | none => s

/-- The administrators. -/
def overrideAdmins (lookup : String → Option String) (s : Settings) : Except Error Settings :=
  match lookup "SLOTWATCH_ADMIN_IDS" with
  | some text => (idList text).map fun adminIds => { s with adminIds }
  | none => .ok s

/-- The settings after the overrides, and the problem that stopped them, if any. -/
def override (lookup : String → Option String) (s : Settings) : Settings × Option Error :=
  let s := overrideBind lookup s
  match overridePort lookup s with
  | .error e => (s, some e)
  | .ok s =>
    let s := overrideHistory lookup s
    match overrideAdmins lookup s with
    | .error e => (s, some e)
    | .ok s => (s, none)

end Settings

end InFlight
