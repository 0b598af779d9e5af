import InFlight.Http.Body
import InFlight.Text.Blank
import InFlight.Text.Hex

/-!
# Bodies in pieces

A body whose length is not known ahead comes in pieces.  Each begins with its length in
hexadecimal digits, behind which a semicolon can open a remark, and a line end; then come so
many bytes and another line end.  A piece of length zero ends the body.

A fault in a length ends the body with a failure.  So does a missing line end behind a piece,
and the last byte of that piece is then not handed over.  When the bytes end inside a piece the
body ends there and nothing fails.

## Main definitions

* `InFlight.Http.Pieces.length?` — the length that a piece begins with.
* `InFlight.Http.Pieces.source` — the body that arrives in pieces.
-/

set_option relaxedAutoImplicit false
set_option autoImplicit false

namespace InFlight

namespace Http

namespace Pieces

/-! ## Lengths -/

/-- The bytes that end a line. -/
def carriageReturn : UInt8 := 0x0D

/-- The byte that stands behind `carriageReturn`. -/
def lineFeed : UInt8 := 0x0A

/-- The byte that opens a remark behind a length. -/
def semicolon : UInt8 := 0x3B

/-- A length is below this bound. -/
def lengthBound : Nat := Nat.pow 2 64

/-- The number that hexadecimal digits write; a plus sign can stand ahead of them. -/
def number? (cs : List Char) : Option Nat :=
  let digits := if cs.head? = some '+' then cs.drop 1 else cs
  if digits.isEmpty then none
  else
    ((digits.mapM Hex.value?).map fun ds => ds.foldl (fun n d => 16 * n + d) 0).filter fun n =>
      decide (n < lengthBound)

/-- The number that bytes write, with blanks around it dropped. -/
def numberOf? (bytes : ByteArray) : Option Nat :=
  (Utf8.decode? bytes).bind fun text => number? (Text.trimList text.toList)

/-- The first position from a position on whose byte has a property, among so many. -/
def find? (bytes : ByteArray) (p : UInt8 → Bool) : Nat → Nat → Option Nat
  | 0, _ => none
  | left + 1, i =>
    match bytes.data[i]? with
    | none => none
    | some b => if p b then some i else find? bytes p left (i + 1)

/-- The byte at a position is the given one. -/
def holds (bytes : ByteArray) (i : Nat) (b : UInt8) : Bool := bytes.data[i]? == some b

/-- The line ends at a position. -/
def endsLine (bytes : ByteArray) (i : Nat) : Bool :=
  holds bytes i carriageReturn && holds bytes (i + 1) lineFeed

/-- The length that a piece at a position begins with, and the position behind its line. -/
def length? (bytes : ByteArray) (start : Nat) : Option (Nat × Nat) := do
  let stop ← find? bytes (fun b => b == carriageReturn || b == semicolon) bytes.size start
  let line ← find? bytes (fun b => b == carriageReturn) bytes.size stop
  if endsLine bytes line then
    return (← numberOf? (bytes.extract start stop), line + 2)
  else none

/-! ## Bodies -/

/-- What a fault in the pieces is called. -/
def failure : String := "Error while decoding chunks"

/-- The body of the pieces from a position on, of which there are at most `left`, behind what
has arrived. -/
def sourceFrom (bytes : ByteArray) : Nat → Nat → ByteArray → Source
  | 0, _, done => { data := done }
  | left + 1, start, done =>
    match length? bytes start with
    | none => { data := done, failure := some failure }
    | some (0, behind) =>
      { data := done, failure := if endsLine bytes behind then none else some failure }
    | some (length, behind) =>
      let stop := behind + length
      if bytes.size < stop then { data := done ++ bytes.extract behind bytes.size }
      else if endsLine bytes stop then
        sourceFrom bytes left (stop + 2) (done ++ bytes.extract behind stop)
      else { data := done ++ bytes.extract behind (stop - 1), failure := some failure }

/-- The body that arrives in pieces; every piece takes at least one byte. -/
def source (bytes : ByteArray) : Source := sourceFrom bytes (bytes.size + 1) 0 .empty

end Pieces

end Http

end InFlight
