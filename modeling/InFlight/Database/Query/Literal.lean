import InFlight.Database.Query.Arithmetic
import InFlight.Database.Schema.Rule
import InFlight.Text.Hex

/-!
# Literals and constants

A number that is written out is an integer where it has neither a point nor an exponent and fits
into sixty-four bits; with an x behind a zero its digits are hexadecimal and give those bits.

A column may have a value for rows that lack one.  That value comes from literals, their opposites
and their casts alone; any other expression gives no value.  The text of a number counts as a text
for a column of texts.

## Main definitions

* `InFlight.Database.Value.ofNumber?`, `InFlight.Database.Value.ofLiteral?` — what a literal is.
* `InFlight.Database.Value.ofConstant?` — what a constant is for a column.
-/

set_option relaxedAutoImplicit false
set_option autoImplicit false

namespace InFlight

namespace Database

open Sql (Expr Literal)

namespace Value

/-! ## Numbers -/

/-- The hexadecimal digits of a number, if it is written with them. -/
def hexDigits? : List Char → Option (List Char)
  | '0' :: x :: digits => if x = 'x' ∨ x = 'X' then some digits else none
  | _ => none

/-- The number that hexadecimal digits write. -/
def hexNumber (digits : List Char) : Nat :=
  digits.foldl (fun n c => 16 * n + (Hex.value? c).getD 0) 0

/-- The integer that hexadecimal digits give the bits of. -/
def hexInteger? (digits : List Char) : Option Int :=
  if hexNumber digits < Nat.pow 2 64 then some ((hexNumber digits : Int).bmod (Nat.pow 2 64)) else none

/-- A number is written without a point and an exponent. -/
def isDigits (text : List Char) : Bool := text.all Decimal.isDigit

/-- The number that a text writes, or its opposite; none if it has too many digits for its
bits. -/
def ofNumber? (negative : Bool) (text : List Char) : Option Value :=
  match hexDigits? text with
  | some digits => do
    let i ← hexInteger? digits
    if negative && i == -(Int.pow 2 63) then none else return integer (if negative then -i else i)
  | none =>
    let size : Int := Decimal.value text
    let i := if negative then -size else size
    if isDigits text && fits i then some (integer i)
    else
      let r := Numeral.leadingReal text
      some (ofReal (if negative then r.neg else r))

/-! ## Literals -/

/-- The text of characters byte by byte. -/
def ofChars (form : TextForm) (cs : List Char) : Value := text (form.ofUtf8 (Text.toBytes cs))

/-- The bytes that pairs of hexadecimal digits write. -/
def ofHexDigits : List Char → List UInt8
  | c :: d :: cs => UInt8.ofNat (hexNumber [c, d]) :: ofHexDigits cs
  | _ => []

/-- The value of a literal; the time is not told. -/
def ofLiteral? (form : TextForm) : Literal → Option Value
  | .null => some null
  | .number cs => ofNumber? false cs
  | .string content => some (ofChars form content)
  | .blob digits => some (blob (ofHexDigits digits))
  | .now _ => none

/-! ## Constants -/

/-- A number that is written out, or its opposite, as the value of a column. -/
def numberAs (form : TextForm) (a : Affinity) (negative : Bool) (text : List Char) : Value :=
  let i? : Option Int := match hexDigits? text with
    | some digits => hexInteger? digits
    | none => if isDigits text && fits (Decimal.value text) then some (Decimal.value text) else none
  match i? with
  | some i => a.convert form (integer (if negative then -i else i))
  | none =>
    let written := if negative then '-' :: text else text
    if a = .blob ∧ isDigits text = false ∧ hexDigits? text = none then
      ofReal (Numeral.leadingReal written)
    else (if a = .blob then Affinity.numeric else a).convert form (ofChars form written)

/-- The opposite of a value as a number. -/
def opposite (form : TextForm) (v : Value) : Value :=
  match v.numerified form with
  | integer i => if fits (-i) then integer (-i) else ofReal (Real.ofInt (-i))
  | real r => ofReal r.neg
  | v => v

/-- The value that a constant gives to a column with an affinity. -/
def ofConstant? (form : TextForm) (a : Affinity) : Expr → Option Value
  | .literal .null => some null
  | .literal (.number cs) => some (numberAs form a false cs)
  | .literal (.string content) => some (a.convert form (ofChars form content))
  | .literal (.blob digits) => some (blob (ofHexDigits digits))
  | .name [n] => (truthOf? n).map fun b => ofTruth (some b)
  | .node .plus [e] => ofConstant? form a e
  | .node .negate [.literal (.number cs)] =>
    if (hexDigits? cs).isSome then
      some (a.convert form ((numberAs form a false cs).opposite form))
    else some (numberAs form a true cs)
  | .node .negate [e] => (ofConstant? form a e).map fun v => a.convert form (v.opposite form)
  | .node (.cast type) [e] =>
    (ofConstant? form (.ofType type) e).map fun v => a.convert form (v.cast form (.ofType type))
  | _ => none

/-- The value of a column in a row that lacks it. -/
def missing (form : TextForm) (c : Column) : Value :=
  ((c.default.bind (ofConstant? form c.affinity)).map fun v =>
    if c.affinity = .real then v.really else v).getD null

end Value

end Database

end InFlight
