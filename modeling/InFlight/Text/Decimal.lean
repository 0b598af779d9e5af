/-!
# Decimal integers within a range

Digits are the ten ASCII digits; leading zeros are allowed.  A number is read only if it
lies in the range asked for, and reading stops as soon as the digits leave the range, so a
text of any length is read in linear time.

## Main definitions

* `InFlight.Decimal.value` — the number that a list of digits writes.
* `InFlight.Decimal.natUpTo?` — that number, if it is at most a bound.
* `InFlight.Decimal.int64?`, `InFlight.Decimal.natural?` — signed texts and unsigned texts.

## Main results

* `InFlight.Decimal.natUpTo?_eq_some_iff` — reading succeeds exactly on digits whose number
  is within the bound.
-/

set_option relaxedAutoImplicit false
set_option autoImplicit false

namespace InFlight

namespace Decimal

/-! ## Digits -/

/-- The value of an ASCII digit. -/
def digit? (c : Char) : Option Nat :=
  if '0' ≤ c ∧ c ≤ '9' then some (c.toNat - '0'.toNat) else none

/-- The character is an ASCII digit. -/
def isDigit (c : Char) : Bool := (digit? c).isSome

/-- The number written by `cs` after digits that write `n`; other characters count as zero. -/
def valueFrom (n : Nat) (cs : List Char) : Nat :=
  cs.foldl (fun n c => 10 * n + (digit? c).getD 0) n

/-- The number that a list of digits writes. -/
def value (cs : List Char) : Nat := valueFrom 0 cs

/-- Reading on from the number `n` while the number stays at most `bound`. -/
def readFrom (bound : Nat) : Nat → List Char → Option Nat
  | n, [] => some n
  | n, c :: cs =>
    match digit? c with
    | none => none
    | some d => if 10 * n + d ≤ bound then readFrom bound (10 * n + d) cs else none

/-- The number written by one or more digits, if it is at most `bound`. -/
def natUpTo? (bound : Nat) (cs : List Char) : Option Nat :=
  if cs.isEmpty then none else readFrom bound 0 cs

/-! ## What is read -/

/-- The number written by one more digit first. -/
theorem valueFrom_cons (n : Nat) (c : Char) (cs : List Char) :
    valueFrom n (c :: cs) = valueFrom (10 * n + (digit? c).getD 0) cs := rfl

/-- Further digits do not make a number smaller. -/
theorem le_valueFrom (n : Nat) (cs : List Char) : n ≤ valueFrom n cs := by
  induction cs generalizing n with
  | nil => exact Nat.le_refl n
  | cons c cs ih =>
    have := ih (10 * n + (digit? c).getD 0)
    rw [valueFrom_cons]
    omega

/-- Reading on succeeds exactly on digits whose number is within the bound. -/
theorem readFrom_eq_some_iff (bound n m : Nat) (cs : List Char) (hn : n ≤ bound) :
    readFrom bound n cs = some m ↔
      (∀ c ∈ cs, isDigit c = true) ∧ valueFrom n cs ≤ bound ∧ m = valueFrom n cs := by
  induction cs generalizing n with
  | nil =>
    have hv : valueFrom n [] = n := rfl
    rw [hv]
    constructor
    · intro h
      exact ⟨by simp, hn, (Option.some.inj h).symm⟩
    · rintro ⟨-, -, rfl⟩
      rfl
  | cons c cs ih =>
    unfold readFrom
    cases hd : digit? c with
    | none => simp [isDigit, hd]
    | some d =>
      have step : valueFrom n (c :: cs) = valueFrom (10 * n + d) cs := by
        rw [valueFrom_cons, hd, Option.getD_some]
      by_cases hle : 10 * n + d ≤ bound
      · simp only [hle, if_true, step, ih _ hle]
        simp [isDigit, hd]
      · have := le_valueFrom (10 * n + d) cs
        simp only [hle, if_false, step, reduceCtorEq, false_iff]
        omega

/-- A number is read exactly from one or more digits that write it, when it is within the
bound. -/
theorem natUpTo?_eq_some_iff (bound m : Nat) (cs : List Char) :
    natUpTo? bound cs = some m ↔
      cs ≠ [] ∧ (∀ c ∈ cs, isDigit c = true) ∧ value cs ≤ bound ∧ m = value cs := by
  cases cs with
  | nil => simp [natUpTo?]
  | cons c cs =>
    simp [natUpTo?, readFrom_eq_some_iff bound 0 m (c :: cs) (Nat.zero_le _), value]

/-! ## Signed and unsigned texts -/

/-- The least 64-bit signed integer. -/
def int64Min : Int := -9223372036854775808

/-- The greatest 64-bit signed integer. -/
def int64Max : Int := 9223372036854775807

/-- The greatest 64-bit unsigned integer. -/
def word64Max : Nat := 18446744073709551615

/-- A 64-bit signed integer: an optional sign and one or more digits. -/
def int64? (s : String) : Option Int :=
  match s.toList with
  | '-' :: cs => (natUpTo? int64Min.natAbs cs).map fun n => -(n : Int)
  | '+' :: cs => (natUpTo? int64Max.natAbs cs).map Int.ofNat
  | cs => (natUpTo? int64Max.natAbs cs).map Int.ofNat

/-- A natural number of at most `bound`: an optional plus sign and one or more digits. -/
def natural? (bound : Nat) (s : String) : Option Nat :=
  match s.toList with
  | '+' :: cs => natUpTo? bound cs
  | cs => natUpTo? bound cs

end Decimal

end InFlight
