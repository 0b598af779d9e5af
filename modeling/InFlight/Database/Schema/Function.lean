import InFlight.Database.Sql.Expr

/-!
# Functions

A function has a name and takes so many arguments; some take any number from a least one on.  Most
functions give the same value for the same arguments, but a few tell the time, a chance or what
has been done before.  Some put together the values of many rows.

Functions that are not listed are taken to be made known by others later on.

## Main definitions

* `InFlight.Database.Function` — what is known of a function.
* `InFlight.Database.Function.named` — the functions of a name.
-/

set_option relaxedAutoImplicit false
set_option autoImplicit false

namespace InFlight

namespace Database

open Sql (sameName)

/-- What a function is good for. -/
inductive FunctionKind where
  /-- The value follows from the arguments. -/
  | steady
  /-- The value may be another one each time. -/
  | changing
  /-- The values of many rows are put together. -/
  | gathering
deriving DecidableEq, Repr

/-- A function that takes at least so many arguments, and at most so many if there is a limit. -/
structure Function where
  name : String
  kind : FunctionKind
  least : Nat
  most : Option Nat
deriving DecidableEq, Repr

namespace Function

/-- A function takes so many arguments. -/
def takes (f : Function) (count : Nat) : Bool :=
  decide (f.least ≤ count) && f.most.all fun most => decide (count ≤ most)

/-- Functions that take so many arguments. -/
def exactly (kind : FunctionKind) (count : Nat) (names : List String) : List Function :=
  names.map fun name => { name, kind, least := count, most := some count }

/-- Functions that take so many arguments or one more. -/
def orOneMore (kind : FunctionKind) (count : Nat) (names : List String) : List Function :=
  names.map fun name => { name, kind, least := count, most := some (count + 1) }

/-- Functions that take so many arguments or more. -/
def orMore (count : Nat) (names : List String) : List Function :=
  names.map fun name => { name, kind := .steady, least := count, most := none }

/-- The functions whose value follows from their arguments. -/
def steadyOnes : List Function :=
  exactly .steady 1 ["abs", "hex", "json", "json_error_position", "json_quote", "jsonb", "length",
    "likely", "lower", "octet_length", "quote", "sign", "soundex", "typeof", "unicode", "unlikely",
    "upper", "zeroblob"] ++
  exactly .steady 2 ["->", "->>", "glob", "ifnull", "instr", "json_patch", "jsonb_patch",
    "likelihood", "nullif", "timediff"] ++
  exactly .steady 3 ["iif", "replace"] ++
  orOneMore .steady 1 ["json_array_length", "json_type", "json_valid", "ltrim", "round", "rtrim",
    "trim", "unhex"] ++
  orOneMore .steady 2 ["like", "substr", "substring"] ++
  orMore 0 ["char", "date", "datetime", "format", "json_array", "json_extract", "json_insert",
    "json_object", "json_remove", "json_replace", "json_set", "jsonb_array", "jsonb_extract",
    "jsonb_insert", "jsonb_object", "jsonb_remove", "jsonb_replace", "jsonb_set", "julianday",
    "printf", "strftime", "time", "unixepoch"] ++
  orMore 1 ["concat"] ++
  orMore 2 ["coalesce", "concat_ws", "max", "min"]

/-- The functions whose value may be another one each time. -/
def changingOnes : List Function :=
  exactly .changing 0 ["changes", "current_date", "current_time", "current_timestamp",
    "last_insert_rowid", "random", "sqlite_source_id", "sqlite_version", "total_changes"] ++
  exactly .changing 1 ["randomblob"] ++
  exactly .changing 2 ["match"]

/-- The functions of many rows. -/
def gatheringOnes : List Function :=
  exactly .gathering 0 ["cume_dist", "dense_rank", "percent_rank", "rank", "row_number"] ++
  exactly .gathering 1 ["avg", "first_value", "json_group_array", "jsonb_group_array",
    "last_value", "max", "min", "ntile", "sum", "total"] ++
  exactly .gathering 2 ["json_group_object", "jsonb_group_object", "nth_value", "string_agg"] ++
  orOneMore .gathering 0 ["count"] ++
  orOneMore .gathering 1 ["group_concat"] ++
  ["lag", "lead"].map fun name => { name, kind := .gathering, least := 1, most := some 3 }

/-- All functions. -/
def all : List Function := steadyOnes ++ changingOnes ++ gatheringOnes

/-- The functions of a name. -/
def named (name : String) : List Function := all.filter fun f => sameName f.name name

/-- The function of a name that takes so many arguments. -/
def find? (name : String) (count : Nat) : Option Function :=
  (named name).find? fun f => f.takes count

end Function

end Database

end InFlight
