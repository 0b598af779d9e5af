/-!
# Columns of text

A cell is padded with spaces to the width of its column, counted in characters; a longer cell
is kept whole.

## Main definitions

* `InFlight.Column.left` — the text stands at the left end of the cell.
* `InFlight.Column.right` — the text stands at the right end of the cell.
-/

set_option relaxedAutoImplicit false
set_option autoImplicit false

namespace InFlight

namespace Column

/-- The spaces that bring a text up to a width. -/
def fill (width : Nat) (s : String) : String :=
  String.ofList (List.replicate (width - s.length) ' ')

/-- A cell with its text at the left end. -/
def left (width : Nat) (s : String) : String := s ++ fill width s

/-- A cell with its text at the right end. -/
def right (width : Nat) (s : String) : String := fill width s ++ s

/-- Cells of one row, two spaces apart. -/
def row (cells : List String) : String := String.intercalate "  " cells

end Column

end InFlight
