/-!
# Bytes as characters

Where a text is looked at byte by byte, each byte is taken for the character with its number.
Letters, digits and marks of ASCII keep their meaning, and whatever the other bytes write stays as
it is.

## Main definitions

* `InFlight.Text.ofBytes`, `InFlight.Text.toBytes` — bytes and the characters they are taken for.
* `InFlight.Text.isSpace` — the blanks of ASCII.

## Main results

* `InFlight.Text.toBytes_ofBytes` — no byte is lost.
-/

set_option relaxedAutoImplicit false
set_option autoImplicit false

namespace InFlight

namespace Text

/-- The characters with the numbers of bytes. -/
def ofBytes (bytes : List UInt8) : List Char := bytes.map fun b => Char.ofNat b.toNat

/-- The bytes with the numbers of characters. -/
def toBytes (cs : List Char) : List UInt8 := cs.map fun c => UInt8.ofNat c.toNat

/-- No byte is lost. -/
theorem toBytes_ofBytes (bytes : List UInt8) : toBytes (ofBytes bytes) = bytes := by
  have below : ∀ n : Fin 256, UInt8.ofNat (Char.ofNat n.val).toNat = UInt8.ofNat n.val := by
    decide +kernel
  have key (b : UInt8) : UInt8.ofNat (Char.ofNat b.toNat).toNat = b := by
    rw [below ⟨b.toNat, b.toNat_lt⟩, UInt8.ofNat_toNat]
  simp only [toBytes, ofBytes, List.map_map]
  exact List.map_id'' key bytes

/-- The blanks of ASCII. -/
def isSpace (c : Char) : Bool := c == ' ' || decide ('\t' ≤ c ∧ c ≤ '\r')

end Text

end InFlight
