/-!
# Real numbers

A real number is stored in sixty-four bits: its sign, its exponent and its digits in base two.
It is compared with other numbers exactly, and read from a ratio as the nearest real number; of
two that are equally near, the one whose last digit is zero.

As a text it has fifteen digits without zeros at their end, but one digit at least stands behind
the point.  Very great and very small numbers have an exponent.

## Main definitions

* `InFlight.Database.Real` — a real number.
* `InFlight.Database.Real.ofRatio`, `InFlight.Database.Real.ofInt` — the nearest real number.
* `InFlight.Database.Real.compare`, `InFlight.Database.Real.compareInt` — the order.
* `InFlight.Database.Real.toInt?` — the integer that a real number is.
* `InFlight.Database.Real.add`, `InFlight.Database.Real.mul`, `InFlight.Database.Real.div` — the
  numbers nearest to sums, products and quotients.
* `InFlight.Database.Real.text` — a real number as a text.
-/

set_option relaxedAutoImplicit false
set_option autoImplicit false

namespace InFlight

namespace Database

/-- A real number in sixty-four bits. -/
structure Real where
  bits : UInt64
deriving DecidableEq, Repr

namespace Real

/-! ## The parts of a number -/

/-- The number is below zero, or is the zero with that sign. -/
def isNegative (r : Real) : Bool := decide (Nat.pow 2 63 ≤ r.bits.toNat)

/-- The exponent as it is stored. -/
def storedExponent (r : Real) : Nat := r.bits.toNat / Nat.pow 2 52 % Nat.pow 2 11

/-- The digits as they are stored, without the one that goes without saying. -/
def storedDigits (r : Real) : Nat := r.bits.toNat % Nat.pow 2 52

/-- The greatest exponent marks what is infinite and what is no number. -/
def isFinite (r : Real) : Bool := r.storedExponent != 2047

/-- What is stored is no number. -/
def isNone (r : Real) : Bool := !r.isFinite && r.storedDigits != 0

/-- The digits of a number as an integer. -/
def digits (r : Real) : Nat :=
  if r.storedExponent = 0 then r.storedDigits else r.storedDigits + Nat.pow 2 52

/-- The power of two that the digits are multiplied by. -/
def exponent (r : Real) : Int := (max r.storedExponent 1 : Int) - 1075

/-- The size of a finite number as a ratio. -/
def ratio (r : Real) : Nat × Nat :=
  if 0 ≤ r.exponent then (r.digits * Nat.pow 2 r.exponent.toNat, 1)
  else (r.digits, Nat.pow 2 (-r.exponent).toNat)

/-! ## The nearest number -/

/-- The number with a sign, stored exponent and digits. -/
def ofParts (negative : Bool) (exponent digits : Nat) : Real :=
  ⟨UInt64.ofNat ((if negative then Nat.pow 2 63 else 0) + exponent * Nat.pow 2 52 + digits)⟩

/-- What is infinite. -/
def infinite (negative : Bool) : Real := ofParts negative 2047 0

/-- A quotient rounded to the nearest integer, and to the even one of two that are equally
near. -/
def roundDiv (num den : Nat) : Nat :=
  let q := num / den
  let twice := 2 * (num % den)
  if twice < den then q else if den < twice then q + 1 else q + q % 2

/-- The power of two by which a ratio is divided so that its digits fill their room; no smaller
than the least power there is. -/
def scale (num den : Nat) : Int :=
  let guess : Int := (Nat.log2 num : Int) - (Nat.log2 den : Int) - 53
  let fits (e : Int) : Bool :=
    if 0 ≤ e then decide (num < den * Nat.pow 2 53 * Nat.pow 2 e.toNat)
    else decide (num * Nat.pow 2 (-e).toNat < den * Nat.pow 2 53)
  let tight := if fits guess then guess else if fits (guess + 1) then guess + 1 else guess + 2
  max tight (-1074)

/-- The real number nearest to a ratio with a sign; the denominator is not zero. -/
def ofRatio (negative : Bool) (num den : Nat) : Real :=
  if num = 0 then ofParts negative 0 0
  else
    let e := scale num den
    let digits :=
      if 0 ≤ e then roundDiv num (den * Nat.pow 2 e.toNat) else roundDiv (num * Nat.pow 2 (-e).toNat) den
    -- digits that were rounded up to one more place fall into the next exponent by themselves
    let stored := (e + 1074).toNat * Nat.pow 2 52 + digits
    if 2047 * Nat.pow 2 52 ≤ stored then infinite negative
    else ⟨UInt64.ofNat ((if negative then Nat.pow 2 63 else 0) + stored)⟩

/-- The real number nearest to an integer. -/
def ofInt (i : Int) : Real := ofRatio (decide (i < 0)) i.natAbs 1

/-- The real number nearest to digits times a power of ten. -/
def ofDecimal (negative : Bool) (digits : Nat) (exponent : Int) : Real :=
  if digits = 0 then ofParts negative 0 0
  -- beyond these bounds a number is infinite or zero, however many digits it has
  else if 400 < exponent + (Nat.log2 digits / 4 : Int) then infinite negative
  else if exponent + (Nat.log2 digits : Int) < -400 then ofParts negative 0 0
  else if 0 ≤ exponent then ofRatio negative (digits * Nat.pow 10 exponent.toNat) 1
  else ofRatio negative digits (Nat.pow 10 (-exponent).toNat)

/-! ## The order -/

/-- The order of two ratios with signs. -/
def compareRatios (aNegative : Bool) (a : Nat × Nat) (bNegative : Bool) (b : Nat × Nat) :
    Ordering :=
  let signed (negative : Bool) (n : Nat) : Int := if negative then -(n : Int) else n
  Ord.compare (signed aNegative (a.1 * b.2)) (signed bNegative (b.1 * a.2))

/-- The order of two numbers. -/
def compare (a b : Real) : Ordering :=
  if a.isFinite ∧ b.isFinite then compareRatios a.isNegative a.ratio b.isNegative b.ratio
  else
    let rank (r : Real) : Int := if r.isFinite then 0 else if r.isNegative then -1 else 1
    Ord.compare (rank a) (rank b)

/-- The order of a number and an integer. -/
def compareInt (a : Real) (b : Int) : Ordering :=
  if a.isFinite then compareRatios a.isNegative a.ratio (decide (b < 0)) (b.natAbs, 1)
  else if a.isNegative then .lt
  else .gt

/-- The integer that a finite number is cut to, toward zero. -/
def truncate (r : Real) : Int :=
  let size := r.ratio.1 / r.ratio.2
  if r.isNegative then -(size : Int) else size

/-- The integer that a number is, within the 64-bit integers. -/
def toInt? (r : Real) : Option Int :=
  if r.isFinite ∧ r.compareInt r.truncate = .eq ∧ -(Int.pow 2 63) ≤ r.truncate ∧ r.truncate < Int.pow 2 63 then
    some r.truncate
  else none

/-- The 64-bit integer that a number is cut to; the nearest one if it lies beyond. -/
def toInt (r : Real) : Int :=
  if r.isFinite then max (-(Int.pow 2 63)) (min (Int.pow 2 63 - 1) r.truncate)
  else if r.isNegative then -(Int.pow 2 63)
  else Int.pow 2 63 - 1

/-! ## Arithmetic -/

/-- What is no number. -/
def indefinite : Real := ofParts false 2047 1

/-- A number with the other sign. -/
def neg (r : Real) : Real := ⟨r.bits ^^^ UInt64.ofNat (Nat.pow 2 63)⟩

/-- The number nearest to a ratio. -/
def ofSigned (num : Int) (den : Nat) : Real := ofRatio (decide (num < 0)) num.natAbs den

/-- The number above the fraction bar, with the sign. -/
def signed (r : Real) : Int := if r.isNegative then -(r.ratio.1 : Int) else r.ratio.1

/-- The sum of two numbers. -/
def add (a b : Real) : Real :=
  if a.isNone ∨ b.isNone then indefinite
  else if a.isFinite ∧ b.isFinite then
    ofSigned (a.signed * b.ratio.2 + b.signed * a.ratio.2) (a.ratio.2 * b.ratio.2)
  else if a.isFinite then b
  else if b.isFinite ∨ a.isNegative = b.isNegative then a
  else indefinite

/-- The product of two numbers. -/
def mul (a b : Real) : Real :=
  let negative := a.isNegative != b.isNegative
  if a.isNone ∨ b.isNone then indefinite
  else if a.isFinite ∧ b.isFinite then
    ofRatio negative (a.ratio.1 * b.ratio.1) (a.ratio.2 * b.ratio.2)
  else if (a.isFinite ∧ a.digits = 0) ∨ (b.isFinite ∧ b.digits = 0) then indefinite
  else infinite negative

/-- The quotient of two numbers, the second of which is not zero. -/
def div (a b : Real) : Real :=
  let negative := a.isNegative != b.isNegative
  if a.isNone ∨ b.isNone then indefinite
  else if a.isFinite ∧ b.isFinite then
    ofRatio negative (a.ratio.1 * b.ratio.2) (a.ratio.2 * b.ratio.1)
  else if a.isFinite then ofParts negative 0 0
  else if b.isFinite then infinite negative
  else indefinite

/-- A number is zero. -/
def isZero (r : Real) : Bool := r.isFinite && r.digits == 0

/-! ## Text -/

/-- How many digits a text has. -/
def shownDigits : Nat := 15

/-- The power of ten of the first digit of a ratio that is not zero. -/
def decimalRank (num den : Nat) : Int :=
  let guess : Int := ((Nat.log2 num : Int) - (Nat.log2 den : Int)) * 30103 / 100000
  let reaches (e : Int) : Bool :=
    if 0 ≤ e then decide (den * Nat.pow 10 e.toNat ≤ num) else decide (den ≤ num * Nat.pow 10 (-e).toNat)
  if reaches (guess + 1) then guess + 1 else if reaches guess then guess else guess - 1

/-- A ratio times a power of ten, rounded to the nearest integer, a half upward. -/
def scaled (num den : Nat) (power : Int) : Nat :=
  let (n, d) := if 0 ≤ power then (num * Nat.pow 10 power.toNat, den) else (num, den * Nat.pow 10 (-power).toNat)
  (2 * n + d) / (2 * d)

/-- The digits of a number without zeros at their end, and the power of ten of the first one. -/
def shown (r : Real) : List Char × Int :=
  let (num, den) := r.ratio
  let rank := decimalRank num den
  let n := scaled num den (shownDigits - 1 - rank)
  let (n, rank) := if Nat.pow 10 shownDigits ≤ n then (n / 10, rank + 1) else (n, rank)
  (((Nat.toDigits 10 n).reverse.dropWhile fun c => c == '0').reverse, rank)

/-- Digits with a point behind the first `whole` of them, and at least one behind the point. -/
def pointed (digits : List Char) (whole : Nat) : List Char :=
  let filled := digits ++ List.replicate (whole + 1 - digits.length) '0'
  filled.take whole ++ ['.'] ++ filled.drop whole

/-- The exponent as it is written: a sign and two digits or more. -/
def exponentText (e : Int) : List Char :=
  let ds := Nat.toDigits 10 e.natAbs
  ['e', if e < 0 then '-' else '+'] ++ List.replicate (2 - ds.length) '0' ++ ds

/-- The text of the size of a number. -/
def sizeText (r : Real) : List Char :=
  if !r.isFinite then "Inf".toList
  else if r.digits = 0 then "0.0".toList
  else
    let (digits, rank) := r.shown
    if rank < -4 ∨ (shownDigits : Int) ≤ rank then pointed digits 1 ++ exponentText rank
    else if rank < 0 then "0.".toList ++ List.replicate (-rank - 1).toNat '0' ++ digits
    else pointed digits (rank.toNat + 1)

/-- A number as a text. -/
def text (r : Real) : String :=
  String.ofList (if r.isNegative ∧ (r.digits ≠ 0 ∨ r.isFinite = false) then '-' :: r.sizeText
    else r.sizeText)

end Real

end Database

end InFlight
