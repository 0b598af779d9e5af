/-!
# Blank characters

Text that people type into a query, an environment variable or a request carries blanks at
its ends.  A character is *blank* when it has the Unicode property White_Space: twenty-five
code points, of which core's `Char.isWhitespace` knows only four.

## Main definitions

* `InFlight.Text.isBlank` — the property.
* `InFlight.Text.trim` — a text without the blanks at its ends.
-/

set_option relaxedAutoImplicit false
set_option autoImplicit false

namespace InFlight

namespace Text

/-- The ranges of code points with the property White_Space, first and last of each. -/
def blankRanges : List (Nat × Nat) :=
  [(0x9, 0xd), (0x20, 0x20), (0x85, 0x85), (0xa0, 0xa0), (0x1680, 0x1680), (0x2000, 0x200a),
    (0x2028, 0x2029), (0x202f, 0x202f), (0x205f, 0x205f), (0x3000, 0x3000)]

/-- The character has the property White_Space. -/
def isBlank (c : Char) : Bool :=
  blankRanges.any fun r => decide (r.1 ≤ c.toNat ∧ c.toNat ≤ r.2)

/-- What core calls whitespace is blank. -/
theorem isBlank_of_isWhitespace (c : Char) (h : c.isWhitespace = true) : isBlank c = true := by
  simp only [Char.isWhitespace, Bool.or_eq_true, decide_eq_true_eq] at h
  rcases h with ((h | h) | h) | h <;> subst h <;> decide

/-- A list of characters without the blanks at its ends. -/
def trimList (cs : List Char) : List Char :=
  ((cs.dropWhile isBlank).reverse.dropWhile isBlank).reverse

/-- A text without the blanks at its ends. -/
def trim (s : String) : String := String.ofList (trimList s.toList)

end Text

end InFlight
