import InFlight.Audit.Basic

/-!
# The history kept in a relational table

Columns of a table are 64-bit signed integers and texts.  A count of slots is a 64-bit
unsigned number and is stored as the signed one with the same bits.  The key of a new row is
one more than the greatest key ever used.

Listing rows follows the clauses of a selection one after the other: the condition of each
filter is that its bound is not positive or the column meets it; the rows are put in order by
descending time and key; a limit that is not negative cuts the result.

## Main definitions

* `InFlight.Audit.toSigned`, `InFlight.Audit.toUnsigned` — a 64-bit word as a column holds it.
* `InFlight.Audit.Row` — a row; `Row.ofRecord`, `Row.toRecord`.
* `InFlight.Audit.Table` — rows and the last key; `Table.append`, `Table.select`.
-/

set_option relaxedAutoImplicit false
set_option autoImplicit false

namespace InFlight

namespace Audit

/-! ## Columns -/

/-- A 64-bit unsigned number as the signed number with the same bits. -/
def toSigned (n : Nat) : Int := (n : Int).bmod 0x10000000000000000

/-- A 64-bit signed number as the unsigned number with the same bits. -/
def toUnsigned (i : Int) : Nat := (i % 0x10000000000000000).toNat

/-- Storing a 64-bit number and reading it back gives the number. -/
theorem toUnsigned_toSigned (n : Nat) (h : n < 0x10000000000000000) :
    toUnsigned (toSigned n) = n := by
  unfold toUnsigned toSigned
  have hmod : (n : Int).bmod 0x10000000000000000 % (0x10000000000000000 : Nat) =
      n % (0x10000000000000000 : Nat) := Int.bmod_emod
  omega

/-- A row of the table. -/
structure Row where
  id : Int
  userId : Int
  username : String
  activeSlots : Int
  windowSecs : Int
  createdAt : Int
deriving DecidableEq, Repr

namespace Row

/-- The row of a record, under a given key. -/
def ofRecord (id : Int) (r : Record) : Row where
  id := id
  userId := r.owner
  username := r.name
  activeSlots := toSigned r.activeSlots
  windowSecs := r.windowSecs
  createdAt := r.createdAt

/-- The record of a row. -/
def toRecord (row : Row) : Record where
  id := row.id
  owner := row.userId
  name := row.username
  activeSlots := toUnsigned row.activeSlots
  windowSecs := row.windowSecs
  createdAt := row.createdAt

/-- The condition of a selection: each bound is not positive, or the column meets it. -/
def Matches (row : Row) (q : Query) : Prop :=
  (q.startTime ≤ 0 ∨ q.startTime ≤ row.createdAt) ∧
    (q.endTime ≤ 0 ∨ row.createdAt ≤ q.endTime) ∧ (q.owner ≤ 0 ∨ row.userId = q.owner)

instance (row : Row) (q : Query) : Decidable (row.Matches q) :=
  inferInstanceAs (Decidable (_ ∧ _ ∧ _))

/-- The first row is listed before the second: it is newer, or as new with a greater key. -/
def Before (a b : Row) : Prop :=
  b.createdAt < a.createdAt ∨ (b.createdAt = a.createdAt ∧ b.id < a.id)

instance (a b : Row) : Decidable (Before a b) := inferInstanceAs (Decidable (_ ∨ _))

/-- Puts a row into ordered rows, behind those that are listed before it. -/
def insertInto (row : Row) : List Row → List Row
  | [] => [row]
  | other :: rest => if Before other row then other :: insertInto row rest else row :: other :: rest

end Row

/-! ## The table -/

/-- The rows in the order of their keys, and the greatest key ever used. -/
structure Table where
  rows : Array Row := #[]
  lastId : Int := 0
deriving DecidableEq, Repr

namespace Table

/-- Inserts a record under the next key; gives the key. -/
def append (t : Table) (r : Record) : Int × Table :=
  let id := t.lastId + 1
  (id, { rows := t.rows.push (Row.ofRecord id r), lastId := id })

/-- The rows that match, in order. -/
def ordered (t : Table) (q : Query) : List Row :=
  (t.rows.toList.filter fun row => decide (row.Matches q)).foldl
    (fun done row => row.insertInto done) []

/-- The first `limit` rows, or all of them when the limit is negative. -/
def cut (limit : Int) (rows : List Row) : List Row :=
  if limit < 0 then rows else rows.take limit.toNat

/-- The records that are asked for, newest first and no more than the limit. -/
def select (t : Table) (q : Query) : List Record :=
  (cut q.effectiveLimit (t.ordered q)).map Row.toRecord

/-- How many rows there are. -/
def size (t : Table) : Nat := t.rows.size

end Table

end Audit

end InFlight
