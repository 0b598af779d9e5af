import InFlight.Database.Value
import InFlight.Text.Bytes
import InFlight.Text.Decimal

/-!
# Numbers in texts

A text may begin with a number: a sign, digits, a point with more digits, and an exponent.  Blanks
may stand around it.  If nothing else follows, the text as a whole is a number; otherwise it can
still be taken for the number that it begins with, or for zero if it begins with none.

A number without a point and an exponent is an integer, unless it has more than sixty-four bits.
Of the digits of a real number only the first nineteen or so count.

## Main definitions

* `InFlight.Database.Numeral`, `InFlight.Database.Numeral.read` — the number that a text begins
  with.
* `InFlight.Database.Numeral.value?` — the number that a text is.
* `InFlight.Database.Numeral.leading` — the number that a text is taken for.
-/

set_option relaxedAutoImplicit false
set_option autoImplicit false

namespace InFlight

namespace Database

/-- The number that a text begins with: its sign, its digits before and behind the point, whether
there is a point, the digits of an exponent with their sign if there is one, and whether nothing
else follows. -/
structure Numeral where
  negative : Bool
  whole : List Char
  pointed : Bool
  fraction : List Char
  exponent : Option (Bool × List Char)
  complete : Bool
deriving DecidableEq, Repr

namespace Numeral

/-- A sign at the start of a text, and what stands behind it. -/
def sign : List Char → Bool × List Char
  | '-' :: cs => (true, cs)
  | '+' :: cs => (false, cs)
  | cs => (false, cs)

/-- The number that a text begins with. -/
def read (text : List Char) : Numeral :=
  let (negative, cs) := sign (text.dropWhile Text.isSpace)
  let whole := cs.takeWhile Decimal.isDigit
  let cs := cs.dropWhile Decimal.isDigit
  let pointed := cs.head? == some '.'
  let cs := if pointed then cs.drop 1 else cs
  let fraction := if pointed then cs.takeWhile Decimal.isDigit else []
  let cs := if pointed then cs.dropWhile Decimal.isDigit else cs
  let marked := cs.head? == some 'e' || cs.head? == some 'E'
  let (small, cs) := if marked then sign (cs.drop 1) else (false, cs)
  let digits := if marked then cs.takeWhile Decimal.isDigit else []
  let cs := if marked then cs.dropWhile Decimal.isDigit else cs
  { negative, whole, pointed, fraction
    exponent := if marked then some (small, digits) else none
    complete := (cs.dropWhile Text.isSpace).isEmpty }

/-- There are digits of the number itself. -/
def hasDigits (n : Numeral) : Bool := !n.whole.isEmpty || !n.fraction.isEmpty

/-- An exponent has digits where there is one. -/
def isSound (n : Numeral) : Bool := n.exponent.all fun e => !e.2.isEmpty

/-- A number without a point and an exponent that has digits. -/
def isWhole (n : Numeral) : Bool := !n.pointed && (n.exponent.isNone || !n.isSound)

/-- The text is a number as a whole. -/
def isNumber (n : Numeral) : Bool := n.hasDigits && n.isSound && n.complete

/-- The integer that the digits before the point write. -/
def integer (n : Numeral) : Int :=
  if n.negative then -(Decimal.value n.whole : Int) else (Decimal.value n.whole : Int)

/-- The integer that the digits before the point write, if it has at most sixty-four bits. -/
def integer? (n : Numeral) : Option Int :=
  if -(Int.pow 2 63) ≤ n.integer ∧ n.integer < Int.pow 2 63 then some n.integer else none

/-- From this number on no more digits are added. -/
def fullDigits : Nat := (Nat.pow 2 64 - 1 - 9) / 10

/-- Digits added to a number as long as it is not full, and how many of them were added. -/
def gather (n : Nat) : List Char → Nat × Nat
  | [] => (n, 0)
  | c :: cs =>
    if fullDigits ≤ n then (n, 0)
    else
      let (m, count) := gather (10 * n + (Decimal.digit? c).getD 0) cs
      (m, count + 1)

/-- The greatest exponent that is told from others. -/
def maxExponent : Nat := 10000

/-- The real number. -/
def real (n : Numeral) : Real :=
  let (digits, used) := gather 0 n.whole
  let (digits, more) := gather digits n.fraction
  let written : Int := match n.exponent with
    | some (small, ds) =>
      let e : Nat := min maxExponent (Decimal.value ds)
      if small then -(e : Int) else e
    | none => 0
  Real.ofDecimal n.negative digits (written + ((n.whole.length - used : Nat) : Int) - (more : Int))

/-- The number as a value: an integer if it is one of at most sixty-four bits, or a real number. -/
def value (n : Numeral) : Value :=
  if n.isWhole then
    match n.integer? with
    | some i => .integer i
    | none => .ofReal n.real
  else .ofReal n.real

/-- The number that a text is. -/
def value? (text : List Char) : Option Value :=
  let n := read text
  if n.isNumber then some n.value else none

/-- The number that a text is taken for: the one that it begins with, or zero. -/
def leading (text : List Char) : Value :=
  let n := read text
  if n.hasDigits then n.value else .integer 0

/-- The integer that a text is taken for: that of the digits that it begins with, or the nearest one
of sixty-four bits. -/
def leadingInteger (text : List Char) : Int :=
  max (-(Int.pow 2 63)) (min (Int.pow 2 63 - 1) (read text).integer)

/-- The real number that a text is taken for. -/
def leadingReal (text : List Char) : Real := (read text).real

end Numeral

end Database

end InFlight
