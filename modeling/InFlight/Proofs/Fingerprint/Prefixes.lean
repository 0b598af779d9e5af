import InFlight.Proofs.Fingerprint.Levels

/-!
# What a comparison reads

How much of two payloads decides whether one continues the other depends on the length of the
incoming one alone: all levels compared agree when the coarsest of them does, and that one reads
the payload up to its threshold.  What follows there may be anything.

## Main definitions

* `InFlight.Fingerprint.coarsestOf` — the coarsest level compared.
* `InFlight.Fingerprint.readSize` — the number of bytes it reads.
* `InFlight.Fingerprint.NoCollision` — no two prefixes that are compared have the same hash unless
  they are equal.

## Main results

* `InFlight.Fingerprint.continues_of_extract_eq` — a common beginning of that size continues.
* `InFlight.Fingerprint.NoCollision.continues_iff` — and nothing else does, without collisions.
* `InFlight.Fingerprint.continues_of_short` — less than 64 bytes are compared by the first eight.
-/

set_option relaxedAutoImplicit false
set_option autoImplicit false

namespace InFlight

namespace Fingerprint

variable {p q : ByteArray} {l : Fin 6} {size : Nat}

/-- The coarsest level that is compared is a level. -/
lemma coarsest_lt (size : Nat) : (maxLevelOf size).val + 1 - matchDepth < 6 := by
  simp only [matchDepth]
  omega

/-- The coarsest level that is compared with an incoming payload of `size` bytes. -/
def coarsestOf (size : Nat) : Fin 6 := ⟨(maxLevelOf size).val + 1 - matchDepth, coarsest_lt size⟩

/-- The number of bytes at the beginning that an incoming payload of `size` bytes has to share with
the payload that it continues. -/
def readSize (size : Nat) : Nat := thresholds.get (coarsestOf size)

/-- No collision among the hashes that are compared: payloads that agree on a level have the same
bytes up to its threshold. -/
def NoCollision (existing incoming : ByteArray) : Prop :=
  ∀ l, Agrees (compute existing) (compute incoming) l →
    existing.extract 0 (thresholds.get l) = incoming.extract 0 (thresholds.get l)

/-- The coarsest level that is compared is not above the finest one. -/
lemma coarsestOf_le (size : Nat) : coarsestOf size ≤ maxLevelOf size := by
  simp only [Fin.le_def, coarsestOf, matchDepth]
  omega

/-- The levels compared are those from the coarsest one on. -/
lemma coarsestOf_le_iff : coarsestOf size ≤ l ↔ (maxLevelOf size).val < l.val + matchDepth := by
  simp only [Fin.le_def, coarsestOf, matchDepth]
  omega

/-- Payloads that share the bytes which are read continue each other, if the existing one reaches
the coarsest level compared. -/
theorem continues_of_extract_eq (hreach : coarsestOf q.size ≤ maxLevelOf p.size)
    (hsame : p.extract 0 (readSize q.size) = q.extract 0 (readSize q.size)) :
    (compute p).continues (compute q) = true :=
  (continues_iff _ _).2 ⟨coarsestOf q.size,
    agrees_of_extract_eq (coarsestOf_le_iff.1 le_rfl) hreach (coarsestOf_le q.size) hsame⟩

/-- **Without collisions a comparison reads bytes**: the incoming payload continues the existing one
exactly when that reaches the coarsest level compared and they share the bytes up to its
threshold.

**Proof sketch.** A level that agrees is no coarser than the coarsest one, so without collisions
the payloads share at least the bytes up to the threshold of that one. -/
theorem NoCollision.continues_iff (h : NoCollision p q) :
    (compute p).continues (compute q) = true ↔ coarsestOf q.size ≤ maxLevelOf p.size ∧
      p.extract 0 (readSize q.size) = q.extract 0 (readSize q.size) := by
  refine ⟨fun hcont => ?_, fun ⟨hreach, hsame⟩ => continues_of_extract_eq hreach hsame⟩
  obtain ⟨l, hagrees⟩ := (Fingerprint.continues_iff _ _).1 hcont
  have hcoarsest : coarsestOf q.size ≤ l := coarsestOf_le_iff.2 hagrees.1
  have hreach : l ≤ maxLevelOf p.size := hagrees.2.2.1
  exact ⟨hcoarsest.trans hreach, extract_eq_of_le (thresholds_mono _ _ hcoarsest) (h l hagrees)⟩

/-! ### Short payloads -/

/-- A payload that falls short of the second threshold covers the first level at most. -/
lemma maxLevelOf_eq_zero (h : size < thresholds.get 1) : maxLevelOf size = 0 := by
  have hnot : ¬ 1 ≤ maxLevelOf size := by
    rw [le_maxLevelOf_iff, Covers]
    simp only [Fin.reduceEq, false_or, not_le]
    exact h
  omega

/-- Short payloads are compared by their first eight bytes, so if those are the same they have no
collision and continue each other. -/
theorem continues_of_short (hq : q.size < 64) (hsame : p.extract 0 8 = q.extract 0 8) :
    NoCollision p q ∧ (compute p).continues (compute q) = true := by
  have hlevel : maxLevelOf q.size = 0 := maxLevelOf_eq_zero hq
  have hcoarsest : coarsestOf q.size = 0 := Fin.le_zero_iff.1 (hlevel ▸ coarsestOf_le q.size)
  constructor
  · intro l hagrees
    have hl : l = 0 := Fin.le_zero_iff.1 (hlevel ▸ hagrees.2.1)
    rw [hl]
    exact hsame
  · refine continues_of_extract_eq ?_ ?_
    · rw [hcoarsest]
      exact Fin.zero_le _
    · rw [readSize, hcoarsest]
      exact hsame

/-- Payloads of which one does not continue the other have no collision. -/
lemma noCollision_of_not_continues (h : (compute p).continues (compute q) = false) :
    NoCollision p q := by
  intro l hagrees
  have hcont : (compute p).continues (compute q) = true := (continues_iff _ _).2 ⟨l, hagrees⟩
  rw [h] at hcont
  exact absurd hcont (by decide)

end Fingerprint

end InFlight
