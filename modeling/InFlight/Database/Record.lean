import InFlight.Database.Node
import InFlight.Database.Value

/-!
# Records

A record is a list of values.  Its bytes begin with a header: its own length and one code for
each value, which says what the value is and how many bytes it takes.  The bytes of the values
follow in order.

A value is read without those behind it: only as much of the header is looked at as stands before
its code, and of the contents only its own bytes.  A record may hold fewer values than are asked
for.

## Main definitions

* `InFlight.Database.Value.code`, `InFlight.Database.Value.ofCode` — codes.
* `InFlight.Database.writeRecord` — the bytes of a record.
* `InFlight.Database.Pages.value?` — one value of a record.
* `InFlight.Database.Pages.lastInteger?` — the integer that a record ends with.
-/

set_option relaxedAutoImplicit false
set_option autoImplicit false

namespace InFlight

namespace Database

/-! ## Codes -/

namespace Value

/-- The code of a number: the least size that it fits into, and codes of their own for zero
and one, which take no bytes. -/
def integerCode (i : Int) : Nat :=
  if i = 0 then 8
  else if i = 1 then 9
  else if i.bmod (Nat.pow 2 8) = i then 1
  else if i.bmod (Nat.pow 2 16) = i then 2
  else if i.bmod (Nat.pow 2 24) = i then 3
  else if i.bmod (Nat.pow 2 32) = i then 4
  else if i.bmod (Nat.pow 2 48) = i then 5
  else 6

/-- How many bytes a value takes that has a code. -/
def codeSize (code : Nat) : Nat :=
  if code ≤ 4 then code
  else if code = 5 then 6
  else if code ≤ 7 then 8
  else if code < 12 then 0
  else (code - 12) / 2

/-- The code of a value. -/
def code : Value → Nat
  | null => 0
  | integer i => integerCode i
  | real _ => 7
  | text bytes => 2 * bytes.length + 13
  | blob bytes => 2 * bytes.length + 12

/-- The bytes of a value. -/
def bytes : Value → List UInt8
  | null => []
  | integer i => bytesOfInt (codeSize (integerCode i)) i
  | real r => bytesOf 8 r.bits.toNat
  | text bytes => bytes
  | blob bytes => bytes

/-- The value of a code and its bytes. -/
def ofCode (code : Nat) (bytes : List UInt8) : Value :=
  if code = 0 then null
  else if code ≤ 6 then integer (intOf bytes)
  else if code = 7 then ofReal ⟨UInt64.ofNat (natOf bytes)⟩
  else if code = 8 then integer 0
  else if code = 9 then integer 1
  else if code < 12 then null
  else if code % 2 = 0 then blob bytes
  else text bytes

end Value

/-! ## Writing -/

/-- The bytes of a record. -/
def writeRecord (values : List Value) : List UInt8 :=
  let codes := values.flatMap fun v => varint v.code
  let length := if codes.length < 127 then codes.length + 1 else codes.length + 2
  varint length ++ codes ++ values.flatMap Value.bytes

/-! ## Reading -/

/-- Where a value stands in a record: its code, and where its bytes begin and end. -/
structure Slot where
  code : Nat
  start : Nat
  stop : Nat
deriving DecidableEq, Repr

/-- Where reading codes has ended: the slot of the last one, the position behind its code, and
whether it is the one that was asked for. -/
structure Reach where
  slot : Slot
  behind : Nat
  complete : Bool
deriving DecidableEq, Repr

/-- Reads codes from a position on up to the end of a header, of which `left` more are wanted;
the bytes of the next value begin at `start`.  The first code is read in any case. -/
def reach (header : ByteArray) (stop : Nat) : Nat → Nat → Nat → Reach
  | left, i, start =>
    let (code, behind) := smallVarintAt header i
    let slot : Slot := { code, start, stop := start + Value.codeSize code }
    match left with
    | 0 => { slot, behind, complete := true }
    | left + 1 =>
      if behind < stop then reach header stop left behind slot.stop
      else { slot, behind, complete := false }

/-- The longest header there is: three bytes for each of as many columns as there may be. -/
def maxHeaderSize : Nat := 98307

namespace Pages

/-- Bytes that begin with the header of a record, where it begins in them, and its length; none if
the header is longer than it can be. -/
def header? (ps : Pages) (p : Payload) : Option (ByteArray × Nat × Nat) := do
  let size := (smallVarintAt p.page p.start).1
  if size ≤ p.onPage then return (p.page, p.start, size)
  else if maxHeaderSize < size ∨ p.length < size ∨ ps.hasRoom size = false then none
  else return (← ps.read? p 0 size, 0, size)

/-- The slot of a column of a record, if the record holds so many values; none for damage. -/
def slot? (ps : Pages) (p : Payload) (column : Nat) : Option (Option Slot) := do
  let (bytes, base, size) ← ps.header? p
  let first := (smallVarintAt p.page p.start).2 - p.start
  -- a header that does not begin on its page is not looked at when it ends before its first code
  if p.onPage < size ∧ size ≤ first then return none
  let r := reach bytes (base + size) column (base + first) size
  let behind := r.behind - base
  if (size ≤ behind ∧ (size < behind ∨ r.slot.stop ≠ p.length)) ∨ p.length < r.slot.stop then
    if size = 0 then return none else none
  else return if r.complete then some r.slot else none

/-- The longest value that is kept. -/
def maxValueSize : Nat := 1000000000

/-- From this size on the room in a file is not looked at when a value of a row is read. -/
def largeValueSize : Nat := 4000

/-- The value in a slot of a record. -/
def valueIn? (ps : Pages) (p : Payload) (slot : Slot) : Option Value := do
  let size := slot.stop - slot.start
  let value (bytes : ByteArray) := Value.ofCode slot.code bytes.toList
  if slot.stop ≤ p.onPage then
    return value (p.page.extract (p.start + slot.start) (p.start + slot.stop))
  else if size = 0 then return value .empty
  else if maxValueSize < size then none
  else if ps.hasRoom slot.stop || (p.isRow && decide (largeValueSize < size)) then
    return value (← ps.read? p slot.start size)
  else none

/-- The value of a column of a record, if the record holds so many values; none for damage. -/
def value? (ps : Pages) (p : Payload) (column : Nat) : Option (Option Value) := do
  match ← ps.slot? p column with
  | some slot => return some (← ps.valueIn? p slot)
  | none => return none

/-- All bytes of a record. -/
def record? (ps : Pages) (p : Payload) : Option ByteArray :=
  if p.length ≤ p.onPage then some (p.page.extract p.start (p.start + p.length))
  else if ps.hasRoom p.length then ps.read? p 0 p.length
  else none

/-- The integer that a record ends with. -/
def lastInteger? (ps : Pages) (p : Payload) : Option Int := do
  let bytes ← ps.record? p
  let size := (smallVarintAt bytes 0).1
  if size < 3 ∨ bytes.size < size then none
  else
    let code := (smallVarintAt bytes (size - 1)).1
    if code < 1 ∨ 9 < code ∨ code = 7 ∨ bytes.size < size + Value.codeSize code then none
    else
      (Value.ofCode code (bytes.extract (bytes.size - Value.codeSize code) bytes.size).toList).integer?

end Pages

end Database

end InFlight
