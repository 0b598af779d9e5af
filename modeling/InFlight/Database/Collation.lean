import InFlight.Database.Value
import InFlight.Text.Bytes

/-!
# The order of values

Nothing comes before numbers, these before texts, and texts before mere bytes.  Integers and real
numbers are compared exactly.  Texts are compared by a collation: byte by byte, without regard to
the case of letters, or without regard to blanks at their ends.

## Main definitions

* `InFlight.Database.Collation`, `InFlight.Database.Collation.ofName?` — the collations.
* `InFlight.Database.Value.compare` — the order of values under a collation.
-/

set_option relaxedAutoImplicit false
set_option autoImplicit false

namespace InFlight

namespace Database

/-- How texts are compared. -/
inductive Collation where
  | binary
  | nocase
  | rtrim
deriving DecidableEq, Repr

/-- The order of bytes one after the other; of two that agree as far as they go the shorter one
comes first. -/
def compareBytes : List UInt8 → List UInt8 → Ordering
  | [], [] => .eq
  | [], _ :: _ => .lt
  | _ :: _, [] => .gt
  | a :: as, b :: bs => (compare a.toNat b.toNat).then (compareBytes as bs)

/-- Bytes are as great as themselves. -/
theorem compareBytes_self (bs : List UInt8) : compareBytes bs bs = .eq := by
  induction bs with
  | nil => rfl
  | cons b bs ih => simp [compareBytes, ih]

namespace Collation

/-- The collation of a name, without regard to case. -/
def ofName? (name : String) : Option Collation :=
  match name.toLower with
  | "binary" => some binary
  | "nocase" => some nocase
  | "rtrim" => some rtrim
  | _ => none

/-- A letter of ASCII as a small one. -/
def small (b : UInt8) : UInt8 := UInt8.ofNat (Char.ofNat b.toNat).toLower.toNat

/-- The order of texts without regard to case, up to a zero byte. -/
def compareSmall : List UInt8 → List UInt8 → Ordering
  | a :: as, b :: bs =>
    if a = 0 ∧ b = 0 then .eq
    else (compare (small a).toNat (small b).toNat).then (compareSmall as bs)
  | _, _ => .eq

/-- Bytes without the blanks at their end. -/
def trimEnd (bs : List UInt8) : List UInt8 := (bs.reverse.dropWhile fun b => b == 32).reverse

/-- The order of two texts of a file. -/
def compareTexts (form : TextForm) (c : Collation) (a b : List UInt8) : Ordering :=
  match c with
  | binary => compareBytes a b
  | nocase =>
    let (a, b) := (form.toUtf8 a, form.toUtf8 b)
    (compareSmall a b).then (compare a.length b.length)
  | rtrim => compareBytes (trimEnd (form.toUtf8 a)) (trimEnd (form.toUtf8 b))

/-- A text is as great as itself under every collation. -/
theorem compareTexts_self (form : TextForm) (c : Collation) (a : List UInt8) :
    compareTexts form c a a = .eq := by
  have key (bs : List UInt8) : compareSmall bs bs = .eq := by
    induction bs with
    | nil => rfl
    | cons b bs ih => unfold compareSmall; split <;> simp [ih]
  cases c with
  | binary => exact compareBytes_self a
  | nocase => simp [compareTexts, key]
  | rtrim => exact compareBytes_self _

end Collation

namespace Value

/-- How far up the kind of a value stands. -/
def rank : Value → Nat
  | null => 0
  | integer _ | real _ => 1
  | text _ => 2
  | blob _ => 3

/-- The order of two values of a file. -/
def compare (form : TextForm) (c : Collation) (v w : Value) : Ordering :=
  match v, w with
  | integer i, integer j => Ord.compare i j
  | integer i, real s => (s.compareInt i).swap
  | real r, integer j => r.compareInt j
  | real r, real s => r.compare s
  | text a, text b => c.compareTexts form a b
  | blob a, blob b => compareBytes a b
  | v, w => Ord.compare v.rank w.rank

/-- Values of different kinds come in the order of their kinds. -/
theorem compare_of_rank_ne (form : TextForm) (c : Collation) (v w : Value) (h : v.rank ≠ w.rank) :
    v.compare form c w = Ord.compare v.rank w.rank := by
  cases v <;> cases w <;> first | rfl | exact absurd rfl h

end Value

end Database

end InFlight
