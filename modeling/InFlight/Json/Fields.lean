import InFlight.Json.Basic

/-!
# Reading typed data from JSON values

A reader of type `Json → Option α` gives the datum that a value holds, and none when the value
does not hold one.  Integers are read from integer literals within a range only; null is no
datum, except where it may stand for an absent one.

A record with named fields is given as an object, in which unknown keys are passed over but no
known key may occur twice, or as an array of its fields in order, which may stop early but not
go on.

## Main definitions

* `InFlight.Json.int?`, `nat?`, `bool?`, `text?`, `listOf?`, `nullable?` — readers.
* `InFlight.Json.Fields`, `InFlight.Json.fields?` — the known fields of a record.
* `InFlight.Json.Fields.required?`, `InFlight.Json.Fields.optional?` — one field.
-/

set_option relaxedAutoImplicit false
set_option autoImplicit false

namespace InFlight

namespace Json

/-! ## Single values -/

/-- An integer between `low` and `high`. -/
def int? (low high : Int) : Json → Option Int
  | .number n => n.int? low high
  | _ => none

/-- A 64-bit signed integer. -/
def int64? (v : Json) : Option Int := v.int? Decimal.int64Min Decimal.int64Max

/-- A natural number of at most `bound`. -/
def nat? (bound : Nat) (v : Json) : Option Nat := (v.int? 0 bound).map Int.toNat

/-- A 64-bit unsigned integer. -/
def word64? (v : Json) : Option Nat := v.nat? Decimal.word64Max

/-- A truth value. -/
def bool? : Json → Option Bool
  | .bool b => some b
  | _ => none

/-- A string that has a text. -/
def text? : Json → Option String
  | .string s => s
  | _ => none

/-- An array, item by item. -/
def listOf? {α : Type} (read : Json → Option α) : Json → Option (List α)
  | .array items => items.mapM read
  | _ => none

/-- A datum that may be absent, in which case null stands for it. -/
def nullable? {α : Type} (read : Json → Option α) : Json → Option (Option α)
  | .null => some none
  | v => (read v).map some

/-! ## Records -/

/-- The known fields that are given, each at most once. -/
abbrev Fields := List (String × Json)

/-- The fields of a record with the field names `names`, as far as they are given. -/
def fields? (names : List String) : Json → Option Fields
  | .object members =>
    match members.mapM fun m => m.1.map fun key => (key, m.2) with
    | none => none
    | some keyed =>
      let known := keyed.filter fun m => names.contains m.1
      if names.all fun name => decide ((known.filter fun m => m.1 == name).length ≤ 1) then
        some known
      else none
  | .array items => if items.length ≤ names.length then some (names.zip items) else none
  | _ => none

/-- A field that must be given. -/
def Fields.required? {α : Type} (fields : Fields) (name : String) (read : Json → Option α) :
    Option α :=
  (fields.lookup name).bind read

/-- A field that has a default when it is not given. -/
def Fields.optional? {α : Type} (fields : Fields) (name : String) (default : α)
    (read : Json → Option α) : Option α :=
  match fields.lookup name with
  | some v => read v
  | none => some default

end Json

end InFlight
