import InFlight.Text.Decimal

/-!
# JSON values

Values as they are written: a number keeps its digits, so that integers of any size stay
exact and `1` differs from `1.0`; an object keeps its members in order, repeated keys
included; a string whose escapes leave half of a surrogate pair has no text.

## Main definitions

* `InFlight.Json` — the values; `Json.text`, `Json.int`, `Json.nat`, `Json.record` build them.
* `InFlight.Json.Number` — a number as it is written; `Number.int?` reads an integer.
-/

set_option relaxedAutoImplicit false
set_option autoImplicit false

namespace InFlight

namespace Json

/-- A number as it is written: its sign, the digits before any point or exponent, and the
rest. -/
structure Number where
  negative : Bool := false
  digits : List Char
  tail : List Char := []
deriving DecidableEq, Repr

namespace Number

/-- An integer as it is written. -/
def ofInt (i : Int) : Number where
  negative := decide (i < 0)
  digits := Nat.toDigits 10 i.natAbs

/-- The integer that is written, if it lies between `low` and `high`.  A number with a point
or an exponent is no integer, and neither is a negative zero. -/
def int? (low high : Int) (n : Number) : Option Int :=
  if n.tail.isEmpty then
    match Decimal.natUpTo? (max low.natAbs high.natAbs) n.digits with
    | none => none
    | some m =>
      let i : Int := if n.negative then -(m : Int) else m
      if n.negative ∧ m = 0 then none
      else if low ≤ i ∧ i ≤ high then some i else none
  else none

end Number

end Json

/-- A JSON value.  A string is given by its text, or by none when an escape in it leaves half
of a surrogate pair; so are the keys of an object. -/
inductive Json where
  | null
  | bool (value : Bool)
  | number (value : Json.Number)
  | string (value : Option String)
  | array (items : List Json)
  | object (members : List (Option String × Json))
deriving Inhabited

namespace Json

/-- A string with the given text. -/
def text (s : String) : Json := .string (some s)

/-- An integer. -/
def int (i : Int) : Json := .number (.ofInt i)

/-- A natural number. -/
def nat (n : Nat) : Json := int n

/-- An object with the given keys. -/
def record (members : List (String × Json)) : Json :=
  .object (members.map fun m => (some m.1, m.2))

end Json

end InFlight
