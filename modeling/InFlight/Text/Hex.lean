/-!
# Hexadecimal text

Two lower-case digits per byte on the way out; either case on the way in.

## Main definitions

* `InFlight.Hex.encode` — the digits of a byte string.
* `InFlight.Hex.value?` — the value of one digit.
-/

set_option relaxedAutoImplicit false
set_option autoImplicit false

namespace InFlight

namespace Hex

/-- The sixteen digits in order. -/
def digits : List Char :=
  ['0', '1', '2', '3', '4', '5', '6', '7', '8', '9', 'a', 'b', 'c', 'd', 'e', 'f']

/-- The digit of a value below sixteen. -/
def digit (n : Nat) : Char := digits.getD n '0'

/-- The two digits of a byte. -/
def byteDigits (b : UInt8) : List Char := [digit (b.toNat / 16), digit (b.toNat % 16)]

/-- A byte string as hexadecimal digits. -/
def encode (bytes : ByteArray) : String :=
  String.ofList (bytes.toList.flatMap byteDigits)

/-- The value of a hexadecimal digit of either case. -/
def value? (c : Char) : Option Nat :=
  if '0' ≤ c ∧ c ≤ '9' then some (c.toNat - '0'.toNat)
  else if 'a' ≤ c ∧ c ≤ 'f' then some (c.toNat - 'a'.toNat + 10)
  else if 'A' ≤ c ∧ c ≤ 'F' then some (c.toNat - 'A'.toNat + 10)
  else none

end Hex

end InFlight
