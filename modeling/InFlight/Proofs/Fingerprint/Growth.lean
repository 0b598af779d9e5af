import InFlight.Proofs.Fingerprint.Levels

/-!
# Payloads that grow and shrink

A task is seen again with a longer payload, or with an earlier state of it.  The longer one is
recognised exactly when it has climbed by at most one level, and the shorter one always; no
assumption on the hash is needed, since the levels compared lie within the common beginning.

## Main results

* `InFlight.Fingerprint.continues_append` — which growth is recognised, and that shrinking is.
-/

set_option relaxedAutoImplicit false
set_option autoImplicit false

namespace InFlight

namespace Fingerprint

variable {p s : ByteArray} {l : Fin 6}

/-- A payload and a longer one have the bytes up to a threshold in common that the first
reaches. -/
lemma extract_append_of_covers (h : Covers p.size l) :
    (p ++ s).extract 0 (thresholds.get l) = p.extract 0 (thresholds.get l) := by
  have hle : thresholds.get l ≤ p.size := h
  rw [ByteArray.extract_append, Nat.sub_eq_zero_of_le hle]
  simp

/-- **Growth by one level is recognised, and no more**: a payload of at least eight bytes is
continued by a longer one exactly when the longer one reaches at most one level more.  In the
other direction the shorter payload always continues the longer one.

**Proof sketch.** Both payloads reach the highest level of the shorter one and have the bytes up
to its threshold in common, so they agree on it.  It is among the two finest levels of the longer
payload when that climbed by at most one level, and it is the finest level of the shorter one.
After a climb by two levels or more, all levels compared are too fine for the shorter payload. -/
theorem continues_append (p s : ByteArray) (hp : 8 ≤ p.size) :
    ((compute p).continues (compute (p ++ s)) = true ↔
        (compute (p ++ s)).maxLevel.val ≤ (compute p).maxLevel.val + 1) ∧
      (compute (p ++ s)).continues (compute p) = true := by
  have hsame : (p ++ s).extract 0 (thresholds.get (maxLevelOf p.size)) =
      p.extract 0 (thresholds.get (maxLevelOf p.size)) :=
    extract_append_of_covers (covers_maxLevelOf hp)
  have hmono : maxLevelOf p.size ≤ maxLevelOf (p ++ s).size :=
    maxLevelOf_mono (by rw [ByteArray.size_append]; omega)
  refine ⟨⟨fun hcont => ?_, fun hclimb => ?_⟩, ?_⟩
  · by_contra hfar
    have hfalse : (compute p).continues (compute (p ++ s)) = false :=
      continues_eq_false (by simp only [matchDepth]; omega)
    rw [hfalse] at hcont
    exact absurd hcont (by decide)
  · have hfine : (maxLevelOf (p ++ s).size).val < (maxLevelOf p.size).val + matchDepth :=
      Nat.lt_succ_of_le hclimb
    exact (continues_iff _ _).2 ⟨_, agrees_of_extract_eq hfine le_rfl hmono hsame.symm⟩
  · have hfine : (maxLevelOf p.size).val < (maxLevelOf p.size).val + matchDepth := by
      simp [matchDepth]
    exact (continues_iff _ _).2 ⟨_, agrees_of_extract_eq hfine hmono le_rfl hsame⟩

/-- Eight bytes that grow to 64 are recognised, eight bytes that grow to 512 are not, and each of
the longer payloads is continued by the eight bytes. -/
theorem continues_append_eight :
    let p := ByteArray.mk (Array.replicate 8 0)
    let grown := p ++ ByteArray.mk (Array.replicate 56 1)
    let outgrown := p ++ ByteArray.mk (Array.replicate 504 1)
    8 ≤ p.size ∧ (compute p).continues (compute grown) = true ∧
      (compute grown).continues (compute p) = true ∧
      (compute p).continues (compute outgrown) = false ∧
      (compute outgrown).continues (compute p) = true := by
  intro p grown outgrown
  have hsize : ∀ (n : Nat) (b : UInt8), (ByteArray.mk (Array.replicate n b)).size = n :=
    fun _ _ => Array.size_replicate
  have hp : p.size = 8 := hsize 8 0
  have hgrown : grown.size = 64 := by rw [ByteArray.size_append, hp, hsize]
  have houtgrown : outgrown.size = 512 := by rw [ByteArray.size_append, hp, hsize]
  obtain ⟨hiff, hback⟩ := continues_append p (ByteArray.mk (Array.replicate 56 1)) hp.ge
  obtain ⟨hiff', hback'⟩ := continues_append p (ByteArray.mk (Array.replicate 504 1)) hp.ge
  refine ⟨hp.ge, hiff.2 ?_, hback, ?_, hback'⟩
  · change (maxLevelOf grown.size).val ≤ (maxLevelOf p.size).val + 1
    rw [hgrown, hp]
    decide
  · rw [← Bool.not_eq_true, hiff']
    change ¬ (maxLevelOf outgrown.size).val ≤ (maxLevelOf p.size).val + 1
    rw [houtgrown, hp]
    decide

end Fingerprint

end InFlight
