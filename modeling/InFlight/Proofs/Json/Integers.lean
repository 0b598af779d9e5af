import Mathlib.Tactic.IntervalCases
import Mathlib.Tactic.Lemma
import InFlight.Json.Fields

/-!
# Integers as they are written

An integer is written with the digits of its amount, of which the first is a zero only if it is the
only one.  Read within a range that holds it, it is the same integer again.

## Main results

* `InFlight.Decimal.natUpTo?_toDigits` — the digits of a number write that number.
* `InFlight.Decimal.toDigits_of_head?_zero` — a leading zero stands alone.
* `InFlight.Decimal.toDigits_value` — digits without a leading zero are those of what they write.
* `InFlight.Json.int?_int` — an integer is read as it was written.
-/

set_option relaxedAutoImplicit false
set_option autoImplicit false

namespace InFlight

/-! ## Digits -/

namespace Decimal

variable {c : Char} {n bound : Nat}

/-- The digits are the characters from 0 to 9. -/
lemma isDigit_iff : isDigit c = true ↔ '0' ≤ c ∧ c ≤ '9' := by
  unfold isDigit digit?
  by_cases h : '0' ≤ c ∧ c ≤ '9' <;> simp [h]

/-- The ten digits. -/
lemma mem_of_isDigit (h : isDigit c = true) :
    c ∈ ['0', '1', '2', '3', '4', '5', '6', '7', '8', '9'] := by
  obtain ⟨hlow, hhigh⟩ := isDigit_iff.1 h
  have hlow' : 48 ≤ c.toNat := hlow
  have hhigh' : c.toNat ≤ 57 := hhigh
  rw [← Char.ofNat_toNat c]
  generalize c.toNat = k at hlow' hhigh'
  interval_cases k <;> decide

/-- A natural number is written with digits. -/
lemma isDigit_of_mem_toDigits (h : c ∈ Nat.toDigits 10 n) : isDigit c = true := by
  have hdigit := Nat.isDigit_of_mem_toDigits (by decide) (by decide) h
  rw [Char.isDigit, Bool.and_eq_true, decide_eq_true_eq, decide_eq_true_eq] at hdigit
  exact isDigit_iff.2 hdigit

/-- The value of digits is the one that core gives them. -/
lemma valueFrom_eq_ofDigitChars {cs : List Char} (h : ∀ c ∈ cs, isDigit c = true) (n : Nat) :
    valueFrom n cs = Nat.ofDigitChars 10 cs n := by
  induction cs generalizing n with
  | nil => rfl
  | cons c cs ih =>
    have hc : digit? c = some (c.toNat - '0'.toNat) := if_pos (isDigit_iff.1 (h c (by simp)))
    rw [valueFrom_cons, hc, Option.getD_some, ih fun d hd => h d (List.mem_cons_of_mem c hd)]
    rfl

/-- The digits of a number write that number. -/
lemma value_toDigits (n : Nat) : value (Nat.toDigits 10 n) = n := by
  rw [value, valueFrom_eq_ofDigitChars fun c => isDigit_of_mem_toDigits,
    Nat.ofDigitChars_ten_toDigits]

/-- Within a bound, the digits of a number are read as that number. -/
lemma natUpTo?_toDigits (h : n ≤ bound) : natUpTo? bound (Nat.toDigits 10 n) = some n :=
  (natUpTo?_eq_some_iff bound n _).2
    ⟨Nat.toDigits_ne_nil, fun c => isDigit_of_mem_toDigits, by rwa [value_toDigits],
      (value_toDigits n).symm⟩

/-- Only zero is written with a leading zero. -/
lemma toDigits_of_head?_zero (h : (Nat.toDigits 10 n).head? = some '0') :
    Nat.toDigits 10 n = ['0'] := by
  induction n using Nat.strongRecOn with
  | ind n ih =>
    rcases Nat.lt_or_ge n 10 with hn | hn
    · rw [Nat.toDigits_of_lt_base hn] at h ⊢
      rw [Option.some.inj h]
    · obtain ⟨c, cs, hcs⟩ :=
        List.exists_cons_of_ne_nil (Nat.toDigits_ne_nil (n := n / 10) (b := 10))
      rw [Nat.toDigits_of_base_le (by decide) hn, hcs] at h
      -- the leading zero is already that of a tenth of the number, which would then be zero
      have hzero := value_toDigits (n / 10)
      rw [ih (n / 10) (by omega) (by rwa [hcs])] at hzero
      have : n / 10 = 0 := hzero.symm
      omega

/-- A digit is the only digit of its value. -/
lemma toDigits_digit? {c : Char} (h : isDigit c = true) :
    (digit? c).getD 0 < 10 ∧ Nat.toDigits 10 ((digit? c).getD 0) = [c] := by
  have hmem := mem_of_isDigit h
  simp only [List.mem_cons, List.not_mem_nil, or_false] at hmem
  rcases hmem with rfl | rfl | rfl | rfl | rfl | rfl | rfl | rfl | rfl | rfl <;> decide

/-- Behind the digits of a number that is not zero, further digits write on. -/
lemma toDigits_append (hn : 0 < n) {cs : List Char} (h : ∀ c ∈ cs, isDigit c = true) :
    Nat.toDigits 10 n ++ cs = Nat.toDigits 10 (valueFrom n cs) := by
  induction cs generalizing n with
  | nil => rw [List.append_nil, valueFrom, List.foldl_nil]
  | cons c cs ih =>
    obtain ⟨hc, hcs⟩ := List.forall_mem_cons.1 h
    obtain ⟨hlt, hdigit⟩ := toDigits_digit? hc
    calc Nat.toDigits 10 n ++ c :: cs
        = (Nat.toDigits 10 n ++ Nat.toDigits 10 ((digit? c).getD 0)) ++ cs := by
          rw [hdigit, List.append_assoc, List.singleton_append]
      _ = Nat.toDigits 10 (10 * n + (digit? c).getD 0) ++ cs := by
          rw [Nat.toDigits_append_toDigits (by decide) hn hlt]
      _ = Nat.toDigits 10 (valueFrom n (c :: cs)) := ih (by omega) hcs

/-- Digits that do not begin with a zero are the digits of the number that they write. -/
lemma toDigits_value {cs : List Char} (hc : c ≠ '0') (h : ∀ d ∈ c :: cs, isDigit d = true) :
    Nat.toDigits 10 (value (c :: cs)) = c :: cs := by
  obtain ⟨hdigit, hcs⟩ := List.forall_mem_cons.1 h
  obtain ⟨-, hdigits⟩ := toDigits_digit? hdigit
  have hpos : 0 < (digit? c).getD 0 := by
    refine Nat.pos_of_ne_zero fun hzero => hc ?_
    rw [hzero, Nat.toDigits_zero] at hdigits
    exact (List.cons.inj hdigits).1.symm
  rw [value, valueFrom_cons, Nat.mul_zero, Nat.zero_add, ← toDigits_append hpos hcs, hdigits,
    List.singleton_append]

end Decimal

/-! ## Integers -/

namespace Json

variable {i low high : Int} {n bound : Nat}

/-- An integer within bounds is read from the number that it is written as. -/
lemma Number.int?_ofInt (hlow : low ≤ i) (hhigh : i ≤ high) :
    (Number.ofInt i).int? low high = some i := by
  have hdigits : Decimal.natUpTo? (max low.natAbs high.natAbs) (Nat.toDigits 10 i.natAbs) =
      some i.natAbs := Decimal.natUpTo?_toDigits (by omega)
  have hsigned :
      (if (Number.ofInt i).negative = true then -(i.natAbs : Int) else i.natAbs) = i := by
    simp only [ofInt, decide_eq_true_eq]
    split <;> omega
  have hzero : ¬((Number.ofInt i).negative = true ∧ i.natAbs = 0) := by
    simp only [ofInt, decide_eq_true_eq]
    omega
  rw [int?, if_pos (show (Number.ofInt i).tail.isEmpty = true from rfl),
    show (Number.ofInt i).digits = Nat.toDigits 10 i.natAbs from rfl, hdigits]
  simp only [hsigned, if_neg hzero, if_pos (And.intro hlow hhigh)]

/-- An integer is read as it was written, within a range that holds it. -/
lemma int?_int (hlow : low ≤ i) (hhigh : i ≤ high) : (int i).int? low high = some i :=
  Number.int?_ofInt hlow hhigh

/-- A signed 64-bit integer is read back. -/
lemma int64?_int (hlow : Decimal.int64Min ≤ i) (hhigh : i ≤ Decimal.int64Max) :
    (int i).int64? = some i := int?_int hlow hhigh

/-- A natural number is read as it was written, up to a bound. -/
lemma nat?_nat (h : n ≤ bound) : (nat n).nat? bound = some n := by
  rw [nat?, nat, int?_int (Int.natCast_nonneg n) (Int.ofNat_le.2 h)]
  rfl

/-- A natural number of 64 bits is read back. -/
lemma word64?_nat (h : n ≤ Decimal.word64Max) : (nat n).word64? = some n := nat?_nat h

end Json

end InFlight
