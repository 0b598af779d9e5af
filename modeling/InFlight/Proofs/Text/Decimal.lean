import Mathlib.Tactic.Lemma
import InFlight.Text.Decimal

/-!
# Signed integers as texts

A text writes an integer with one or more digits, behind a sign if there is one.  Leading zeros and
a plus sign are allowed, so that an integer has many texts; a text has at most one integer.

## Main definitions

* `InFlight.Decimal.Writes` — a text writes an integer.

## Main results

* `InFlight.Decimal.int64?_eq_some_iff` — what is read are the 64-bit integers that texts write.
* `InFlight.Decimal.natural?_eq_some_iff` — the same for natural numbers up to a bound.
-/

set_option relaxedAutoImplicit false
set_option autoImplicit false

namespace InFlight

namespace Decimal

/-- A text writes an integer: one or more digits, behind a sign if there is one. -/
inductive Writes : List Char → Int → Prop where
  | unsigned {cs : List Char} (hne : cs ≠ []) (hdigits : ∀ c ∈ cs, isDigit c = true) :
    Writes cs (value cs)
  | plus {cs : List Char} (hne : cs ≠ []) (hdigits : ∀ c ∈ cs, isDigit c = true) :
    Writes ('+' :: cs) (value cs)
  | minus {cs : List Char} (hne : cs ≠ []) (hdigits : ∀ c ∈ cs, isDigit c = true) :
    Writes ('-' :: cs) (-(value cs : Int))

variable {cs : List Char} {i : Int}

/-- What a text writes that begins with a minus sign. -/
lemma writes_minus_iff : Writes ('-' :: cs) i ↔
    cs ≠ [] ∧ (∀ c ∈ cs, isDigit c = true) ∧ i = -(value cs : Int) := by
  constructor
  · intro h
    cases h with
    | unsigned _ hdigits => exact absurd (hdigits '-' List.mem_cons_self) (by decide)
    | minus hne hdigits => exact ⟨hne, hdigits, rfl⟩
  · rintro ⟨hne, hdigits, rfl⟩
    exact .minus hne hdigits

/-- What a text writes that begins with a plus sign. -/
lemma writes_plus_iff : Writes ('+' :: cs) i ↔
    cs ≠ [] ∧ (∀ c ∈ cs, isDigit c = true) ∧ i = value cs := by
  constructor
  · intro h
    cases h with
    | unsigned _ hdigits => exact absurd (hdigits '+' List.mem_cons_self) (by decide)
    | plus hne hdigits => exact ⟨hne, hdigits, rfl⟩
  · rintro ⟨hne, hdigits, rfl⟩
    exact .plus hne hdigits

/-- Without a sign ahead. -/
lemma writes_unsigned_iff (hminus : cs.head? ≠ some '-') (hplus : cs.head? ≠ some '+') :
    Writes cs i ↔ cs ≠ [] ∧ (∀ c ∈ cs, isDigit c = true) ∧ i = value cs := by
  constructor
  · intro h
    cases h with
    | unsigned hne hdigits => exact ⟨hne, hdigits, rfl⟩
    | plus => exact absurd rfl hplus
    | minus => exact absurd rfl hminus
  · rintro ⟨hne, hdigits, rfl⟩
    exact .unsigned hne hdigits

/-- Digits up to a bound, read as an integer that does not exceed it. -/
lemma map_natUpTo?_eq_some_iff {bound : Nat} (sign : Nat → Int) :
    (natUpTo? bound cs).map sign = some i ↔
      (cs ≠ [] ∧ (∀ c ∈ cs, isDigit c = true) ∧ i = sign (value cs)) ∧ value cs ≤ bound := by
  simp only [Option.map_eq_some_iff, natUpTo?_eq_some_iff]
  constructor
  · rintro ⟨n, ⟨hne, hdigits, hle, rfl⟩, rfl⟩
    exact ⟨⟨hne, hdigits, rfl⟩, hle⟩
  · rintro ⟨⟨hne, hdigits, rfl⟩, hle⟩
    exact ⟨value cs, ⟨hne, hdigits, hle, rfl⟩, rfl⟩

/-- The integer behind a minus sign is the one without it, with the other sign. -/
lemma int64?_minus {s : String} (hs : s.toList = '-' :: cs) :
    int64? s = (natUpTo? int64Min.natAbs cs).map fun n : Nat => -(n : Int) := by
  simp only [int64?, hs]
  cases natUpTo? int64Min.natAbs cs <;> rfl

/-- **A 64-bit integer is read exactly from the texts that write it.** -/
theorem int64?_eq_some_iff {s : String} :
    int64? s = some i ↔ Writes s.toList i ∧ int64Min ≤ i ∧ i ≤ int64Max := by
  have hbounds : int64Min = -9223372036854775808 ∧ int64Max = 9223372036854775807 := ⟨rfl, rfl⟩
  have hcast : ∀ cs, Int.ofNat (value cs) = (value cs : Int) := fun _ => rfl
  by_cases hminus : s.toList.head? = some '-'
  · obtain ⟨cs, hcs⟩ := List.head?_eq_some_iff.1 hminus
    rw [int64?_minus hcs, hcs, writes_minus_iff, map_natUpTo?_eq_some_iff]
    refine and_congr_right fun h => ?_
    omega
  by_cases hplus : s.toList.head? = some '+'
  · obtain ⟨cs, hcs⟩ := List.head?_eq_some_iff.1 hplus
    have hread : int64? s = (natUpTo? int64Max.natAbs cs).map Int.ofNat := by
      simp only [int64?, hcs]
    rw [hread, hcs, writes_plus_iff, map_natUpTo?_eq_some_iff, hcast]
    refine and_congr_right fun h => ?_
    omega
  · have hread : int64? s = (natUpTo? int64Max.natAbs s.toList).map Int.ofNat := by
      unfold int64?
      split
      case h_1 hcs => exact absurd (by rw [hcs, List.head?_cons]) hminus
      case h_2 hcs => exact absurd (by rw [hcs, List.head?_cons]) hplus
      case h_3 => rfl
    rw [hread, writes_unsigned_iff hminus hplus, map_natUpTo?_eq_some_iff, hcast]
    refine and_congr_right fun h => ?_
    omega

/-- **A natural number is read exactly from the texts that write it** without a minus sign, up to
the bound. -/
theorem natural?_eq_some_iff {bound n : Nat} {s : String} : natural? bound s = some n ↔
    Writes s.toList n ∧ s.toList.head? ≠ some '-' ∧ n ≤ bound := by
  by_cases hplus : s.toList.head? = some '+'
  · obtain ⟨cs, hcs⟩ := List.head?_eq_some_iff.1 hplus
    have hread : natural? bound s = natUpTo? bound cs := by
      simp only [natural?, hcs]
    rw [hread, hcs, natUpTo?_eq_some_iff, writes_plus_iff, Int.ofNat_inj]
    simp only [List.head?_cons, ne_eq, Option.some.injEq]
    constructor
    · rintro ⟨hne, hdigits, hle, rfl⟩
      exact ⟨⟨hne, hdigits, rfl⟩, by decide, hle⟩
    · rintro ⟨⟨hne, hdigits, rfl⟩, -, hle⟩
      exact ⟨hne, hdigits, hle, rfl⟩
  · have hread : natural? bound s = natUpTo? bound s.toList := by
      unfold natural?
      split
      case h_1 hcs => exact absurd (by rw [hcs, List.head?_cons]) hplus
      case h_2 => rfl
    rw [hread, natUpTo?_eq_some_iff]
    constructor
    · rintro ⟨hne, hdigits, hle, rfl⟩
      refine ⟨.unsigned hne hdigits, fun hminus => ?_, hle⟩
      exact absurd (hdigits '-' (List.mem_of_head? hminus)) (by decide)
    · rintro ⟨hwrites, hminus, hle⟩
      obtain ⟨hne, hdigits, hvalue⟩ := (writes_unsigned_iff hminus hplus).1 hwrites
      obtain rfl : n = value s.toList := Int.ofNat_inj.1 hvalue
      exact ⟨hne, hdigits, hle, rfl⟩

end Decimal

end InFlight
