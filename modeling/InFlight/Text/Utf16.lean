import InFlight.Text.Utf8

/-!
# UTF-16

Text in units of sixteen bits.  A unit is a code point of its own, but one that is half of a
pair takes the next unit with it, whatever that is.  A half without a unit behind it stays what
it is, which is no character, and a last byte that is no unit counts for nothing.

## Main definitions

* `InFlight.Utf16.units`, `InFlight.Utf16.bytes` — units and the bytes that write them.
* `InFlight.Utf16.points`, `InFlight.Utf16.ofPoints` — units and the code points they stand for.
* `InFlight.Utf16.decode?` — the text of bytes, if they write one.
-/

set_option relaxedAutoImplicit false
set_option autoImplicit false

namespace InFlight

namespace Utf16

/-! ## Units -/

/-- The units that bytes write, with the more significant byte first or last. -/
def units (bigEndian : Bool) : List UInt8 → List Nat
  | a :: b :: rest =>
    (if bigEndian then 256 * a.toNat + b.toNat else 256 * b.toNat + a.toNat) ::
      units bigEndian rest
  | _ => []

/-- The bytes that write units. -/
def bytes (bigEndian : Bool) (units : List Nat) : List UInt8 :=
  units.flatMap fun u =>
    if bigEndian then [UInt8.ofNat (u / 256), UInt8.ofNat u]
    else [UInt8.ofNat u, UInt8.ofNat (u / 256)]

/-! ## Code points -/

/-- A unit that is half of a pair. -/
def isHalf (unit : Nat) : Bool := decide (0xD800 ≤ unit ∧ unit ≤ 0xDFFF)

/-- The code point of two units. -/
def pair (first second : Nat) : Nat :=
  0x10000 + 0x400 * (first % 0x400) + second % 0x400

/-- The code points of units. -/
def points : List Nat → List Nat
  | [] => []
  | [unit] => [unit]
  | unit :: second :: rest =>
    if isHalf unit then pair unit second :: points rest else unit :: points (second :: rest)

/-- The units of code points. -/
def ofPoints (points : List Nat) : List Nat :=
  points.flatMap fun p =>
    if p < 0x10000 then [p]
    else [0xD800 + (p - 0x10000) / 0x400 % 0x400, 0xDC00 + (p - 0x10000) % 0x400]

/-! ## Text -/

/-- The text of bytes; none if there is a half without a unit behind it. -/
def decode? (bigEndian : Bool) (bytes : List UInt8) : Option String :=
  let points := points (units bigEndian bytes)
  if points.all fun p => decide p.isValidChar then some (String.ofList (points.map Char.ofNat))
  else none

end Utf16

end InFlight
