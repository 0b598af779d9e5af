import InFlight.Database.Affinity
import InFlight.Text.Split

/-!
# Types of columns

A column may be declared with any words for its type.  Six words are types of their own; all other
types give no more than an affinity.  A type also tells how much room its values are likely to
take, counted in integers.

Words that say that a column is made from others may have come to stand at the end of its type;
they are not part of it.

## Main definitions

* `InFlight.Database.ColumnType`, `InFlight.Database.ColumnType.ofText` — a type.
-/

set_option relaxedAutoImplicit false
set_option autoImplicit false

namespace InFlight

namespace Database

/-- A type of a column: which of the types of their own it is, if it is one, its affinity and how
much room its values take. -/
structure ColumnType where
  standard : Option String := none
  affinity : Affinity
  width : Nat
deriving DecidableEq, Repr

namespace ColumnType

/-! ## The words of a type -/

/-- A text without blanks at its end. -/
def trimEnd (cs : List Char) : List Char := (cs.reverse.dropWhile Text.isSpace).reverse

/-- A text without a word in small letters at its end, if it ends so. -/
def without? (word : String) (cs : List Char) : Option (List Char) :=
  if word.toList.isSuffixOf (cs.map Char.toLower) then
    some (trimEnd (cs.take (cs.length - word.length)))
  else none

/-- The least length of a type that words about how the column is made may end. -/
def leastMade : Nat := 16

/-- A type without the words about how the column is made. -/
def withoutMaking (cs : List Char) : List Char :=
  if cs.length < leastMade then cs
  else
    match without? "always" cs with
    | some rest => (without? "generated" rest).getD rest
    | none => cs

/-- A character that begins a quotation. -/
def isQuote (c : Char) : Bool := ['\'', '"', '\x60', '['].contains c

/-- A text without a quotation mark around it, unless there are others within. -/
def withoutMarks (cs : List Char) : List Char :=
  match cs with
  | c :: rest =>
    if isQuote c && !rest.isEmpty && !(rest.dropLast.any isQuote) then rest.dropLast else cs
  | [] => []

/-- What stands in a quotation up to its end; a mark that is written twice stands for itself. -/
def quoted (mark : Char) : List Char → List Char
  | [] => []
  | [c] => if c = mark then [] else [c]
  | c :: d :: cs =>
    if c = mark then if d = mark then c :: quoted mark cs else []
    else c :: quoted mark (d :: cs)

/-- The quotation that a text begins with, or else the text. -/
def unquoted (cs : List Char) : List Char :=
  match cs with
  | c :: rest => if isQuote c then quoted (if c = '[' then ']' else c) rest else cs
  | [] => []

/-! ## Room -/

/-- What stands behind the last place where a word in small letters ends. -/
def behindLast? (word : String) : List Char → Option (List Char)
  | [] => none
  | c :: cs =>
    match behindLast? word cs with
    | some rest => some rest
    | none =>
      if word.toList.isPrefixOf ((c :: cs).map Char.toLower) then some ((c :: cs).drop word.length)
      else none

/-- The greatest number that a type may give. -/
def maxTold : Nat := Nat.pow 2 31 - 1

/-- The number that digits in a text give, if it is not too great. -/
def told (cs : List Char) : Nat :=
  let digits := (cs.dropWhile fun c => !Decimal.isDigit c).takeWhile Decimal.isDigit
  let n := Decimal.value digits
  if n ≤ maxTold ∧ (digits.dropWhile fun c => c == '0').length ≤ 10 then n else 0

/-- How many bytes the values of a type with an affinity to no numbers take. -/
def bytesOf (cs : List Char) : Nat :=
  match behindLast? "char" cs with
  | some rest => told rest
  | none =>
    match behindLast? "blob" cs with
    | some ('(' :: rest) => told rest
    | _ => 16

/-- How many integers take as much room as a value of so many bytes. -/
def widthOf (bytes : Nat) : Nat := min 255 (bytes / 4 + 1)

/-! ## Types -/

/-- The types of their own with their affinities. -/
def standards : List (String × Affinity) :=
  [("any", .numeric), ("blob", .blob), ("int", .integer), ("integer", .integer), ("real", .real),
    ("text", .text)]

/-- The room of a type of its own. -/
def standardWidth (a : Affinity) : Nat := if a = .blob ∨ a = .text then 5 else 1

/-- The type that a text declares. -/
def ofText (text : String) : ColumnType :=
  let cs := withoutMaking text.toList
  let plain := if cs.length < 3 then cs else withoutMarks cs
  let word := String.ofList (plain.map Char.toLower)
  match standards.find? fun s => s.1 == word with
  | some (name, affinity) => { standard := some name, affinity, width := standardWidth affinity }
  | none =>
    if plain.isEmpty then { affinity := .blob, width := 1 }
    else
      let type := unquoted plain
      let affinity := Affinity.ofType (String.ofList type)
      let width := if affinity.isNumeric then 1 else widthOf (bytesOf type)
      { affinity, width }

end ColumnType

end Database

end InFlight
