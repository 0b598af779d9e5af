import InFlight.Database.Affinity
import InFlight.Database.Sql.Expr

/-!
# Arithmetic of values

Where a number is wanted, a text or mere bytes are taken for the number that they begin with.
Integers stay integers as long as sixty-four bits are enough for them; otherwise they become real
numbers.  Nothing comes of nothing, and of a division by zero.

What is true is a number other than zero.  Nothing is neither true nor false.

## Main definitions

* `InFlight.Database.Value.number`, `InFlight.Database.Value.toInt`,
  `InFlight.Database.Value.toReal`, `InFlight.Database.Value.truth?` — what a value is taken for.
* `InFlight.Database.Value.arithmetic` — the operations on two numbers.
* `InFlight.Database.Value.cast` — a value as one of a type.
-/

set_option relaxedAutoImplicit false
set_option autoImplicit false

namespace InFlight

namespace Database

namespace Value

/-! ## What a value is taken for -/

/-- The number that a value is taken for; nothing stays nothing. -/
def number (form : TextForm) : Value → Value
  | text bytes | blob bytes => Numeral.leading (chars form bytes)
  | v => v

/-- The integer that a value is taken for. -/
def toInt (form : TextForm) : Value → Int
  | null => 0
  | integer i => i
  | real r => r.toInt
  | text bytes | blob bytes => Numeral.leadingInteger (chars form bytes)

/-- The real number that a value is taken for. -/
def toReal (form : TextForm) : Value → Real
  | null => Real.ofInt 0
  | integer i => Real.ofInt i
  | real r => r
  | text bytes | blob bytes => Numeral.leadingReal (chars form bytes)

/-- Whether a value is true; nothing is neither true nor false. -/
def truth? (form : TextForm) : Value → Option Bool
  | null => none
  | integer i => some (i != 0)
  | v => some (!(v.toReal form).isZero)

/-- The value of a truth. -/
def ofTruth : Option Bool → Value
  | some true => integer 1
  | some false => integer 0
  | none => null

/-- The value is nothing. -/
def isNull (v : Value) : Bool := v == null

/-! ## Logic -/

/-- Both of two truths. -/
def both : Option Bool → Option Bool → Option Bool
  | some false, _ | _, some false => some false
  | some true, some true => some true
  | _, _ => none

/-- One of two truths. -/
def either : Option Bool → Option Bool → Option Bool
  | some true, _ | _, some true => some true
  | some false, some false => some false
  | _, _ => none

/-- One of two truths fails when the opposites of both hold. -/
theorem either_not (a b : Option Bool) : either (a.map not) (b.map not) = (both a b).map not := by
  match a, b with
  | none, none | none, some true | none, some false | some true, none | some false, none => rfl
  | some true, some true | some true, some false => rfl
  | some false, some true | some false, some false => rfl

/-! ## Arithmetic -/

/-- An integer has at most sixty-four bits. -/
def fits (i : Int) : Bool := decide (-(Int.pow 2 63) ≤ i ∧ i < Int.pow 2 63)

/-- A remainder; one by minus one is zero. -/
def remainder (a b : Int) : Int := if b = -1 then 0 else a.tmod b

/-- A number moved by so many bits, and to the other side when that is below zero. -/
def shift (left : Bool) (a b : Int) : Int :=
  let left := if b < 0 then !left else left
  let places := min b.natAbs 64
  if left then (a * Int.pow 2 places).bmod (Nat.pow 2 64)
  else a.fdiv (Int.pow 2 places)

/-- Sixty-four bits put together one by one. -/
def bitwise (f : Nat → Nat → Nat) (a b : Int) : Int :=
  (f (a % Int.pow 2 64).toNat (b % Int.pow 2 64).toNat : Int).bmod (Nat.pow 2 64)

/-- An operation on two integers where that gives an integer of sixty-four bits. -/
def onIntegers? (op : Sql.Arithmetic) (a b : Int) : Option Int :=
  let result? : Option Int := match op with
    | .add => some (a + b)
    | .subtract => some (a - b)
    | .multiply => some (a * b)
    | .divide => some (a.tdiv b)
    | .remainder => some (remainder a b)
    | _ => none
  result?.filter fits

/-- An operation on two real numbers. -/
def onReals (op : Sql.Arithmetic) (a b : Real) : Value :=
  match op with
  | .add => ofReal (a.add b)
  | .subtract => ofReal (a.add b.neg)
  | .multiply => ofReal (a.mul b)
  | .divide => if b.isZero then null else ofReal (a.div b)
  | .remainder =>
    if b.toInt = 0 then null else ofReal (Real.ofInt (remainder a.toInt b.toInt))
  | _ => null

/-- An operation on two numbers. -/
def arithmetic (form : TextForm) (op : Sql.Arithmetic) (v w : Value) : Value :=
  if v.isNull || w.isNull then null
  else
    match op with
    | .bitAnd => integer (bitwise Nat.land (v.toInt form) (w.toInt form))
    | .bitOr => integer (bitwise Nat.lor (v.toInt form) (w.toInt form))
    | .shiftLeft => integer (shift true (v.toInt form) (w.toInt form))
    | .shiftRight => integer (shift false (v.toInt form) (w.toInt form))
    | op =>
      match v.number form, w.number form with
      | integer a, integer b =>
        if b = 0 ∧ (op = .divide ∨ op = .remainder) then null
        else
          match onIntegers? op a b with
          | some i => integer i
          | none => onReals op (Real.ofInt a) (Real.ofInt b)
      | a, b => onReals op (a.toReal form) (b.toReal form)

/-- All bits of a number turned around. -/
def bitNot (form : TextForm) (v : Value) : Value :=
  if v.isNull then null else integer (-1 - v.toInt form)

/-! ## Texts -/

/-- The bytes of a value as a text. -/
def bytesAsText (form : TextForm) (v : Value) : List UInt8 :=
  match v.spelled form with
  | text bytes | blob bytes => bytes
  | _ => []

/-- Two values as texts one after the other. -/
def join (form : TextForm) (v w : Value) : Value :=
  if v.isNull || w.isNull then null else text (v.bytesAsText form ++ w.bytesAsText form)

/-! ## Types -/

/-- The greatest size of a real number that is told from the integers beside it. -/
def exactBound : Int := Int.pow 2 51

/-- A text as the number that it begins with; an integer where that is the same. -/
def numerified (form : TextForm) : Value → Value
  | text bytes | blob bytes =>
    match Numeral.leading (chars form bytes) with
    | real r =>
      match r.toInt? with
      | some i => if -exactBound ≤ i ∧ i < exactBound then integer i else real r
      | none => real r
    | v => v
  | v => v

/-- A value as one of a type with an affinity. -/
def cast (form : TextForm) (a : Affinity) (v : Value) : Value :=
  if v.isNull then null
  else
    match a with
    | .blob => blob (v.bytesAsText form)
    | .text => text (v.bytesAsText form)
    | .numeric => v.numerified form
    | .integer => integer (v.toInt form)
    | .real => ofReal (v.toReal form)

end Value

end Database

end InFlight
