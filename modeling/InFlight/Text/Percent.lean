import InFlight.Text.Hex

/-!
# Percent signs

In queries and addresses a percent sign with two hexadecimal digits stands for a byte.

## Main definitions

* `InFlight.Text.percentDecode` — the bytes that a text with percent signs stands for.
-/

set_option relaxedAutoImplicit false
set_option autoImplicit false

namespace InFlight

namespace Text

/-- The value of a hexadecimal digit given as a byte. -/
def hexByte? (b : UInt8) : Option Nat := Hex.value? (Char.ofNat b.toNat)

/-- Bytes with every percent sign and two hexadecimal digits decoded; a percent sign that is
not followed by two digits stands for itself. -/
def percentDecode : List UInt8 → List UInt8
  | 0x25 :: a :: b :: rest =>
    match hexByte? a, hexByte? b with
    | some x, some y => UInt8.ofNat (16 * x + y) :: percentDecode rest
    | _, _ => 0x25 :: percentDecode (a :: b :: rest)
  | b :: rest => b :: percentDecode rest
  | [] => []

end Text

end InFlight
