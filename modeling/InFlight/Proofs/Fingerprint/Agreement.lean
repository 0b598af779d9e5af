import Mathlib.Data.Set.Function
import InFlight.Proofs.Fingerprint.Prefixes
import InFlight.Proofs.Fingerprint.SinglePass

/-!
# Agreement in bytes

A level is the hash of the payload up to the threshold of the level, so two payloads agree on a
level when these prefixes have the same hash.  If the hash tells the prefixes apart that are
compared, one payload continues another exactly when some prefix that is compared is the same in
both.  Level zero is reached by every payload, covered or not, and there a payload that is too short
stands for its own prefix.

## Main definitions

* `InFlight.Fingerprint.prefixAt` — a payload up to the threshold of a level.
* `InFlight.Fingerprint.Compared` — the levels on which two payloads are compared.

## Main results

* `InFlight.Fingerprint.agrees_compute_iff` — agreement on a level, in hashes of prefixes.
* `InFlight.Fingerprint.noCollision_iff` — no collision means that the hash is injective on the
  prefixes compared.
* `InFlight.Fingerprint.continues_iff_prefixes` — the comparison in bytes.
-/

set_option relaxedAutoImplicit false
set_option autoImplicit false

namespace InFlight

namespace Fingerprint

variable {p q : ByteArray} {l : Fin 6} {n : Nat}

/-- A payload up to the threshold of a level; all of it when it is shorter. -/
def prefixAt (data : ByteArray) (l : Fin 6) : ByteArray := data.extract 0 (thresholds.get l)

/-- Level `l` is compared when `incoming` comes after `existing`: it is one of the two highest
levels of the incoming payload, and the existing one reaches it. -/
def Compared (existing incoming : ByteArray) (l : Fin 6) : Prop :=
  (compute incoming).maxLevel.val - 1 ≤ l.val ∧ l ≤ (compute incoming).maxLevel ∧
    l ≤ (compute existing).maxLevel

/-! ## Agreement on a level -/

/-- A payload up to a point past its end is all of it. -/
lemma extract_min_size (data : ByteArray) (n : Nat) :
    data.extract 0 (min n data.size) = data.extract 0 n := by
  rcases Nat.le_total n data.size with hle | hle
  · rw [min_eq_left hle]
  · rw [min_eq_right hle, extract_eq_self le_rfl, extract_eq_self hle]

/-- A level is the hash of the prefix that it covers. -/
lemma levels_eq_levelHash_prefixAt (data : ByteArray) (l : Fin 6) :
    (compute data).levels.get l = levelHash (prefixAt data l) := by
  rw [levels_eq_levelHash, extract_min_size, prefixAt]

/-- **Two payloads agree on a level** when it is compared and their prefixes have the same hash. -/
theorem agrees_compute_iff : Agrees (compute p) (compute q) l ↔
    Compared p q l ∧ levelHash (prefixAt p l) = levelHash (prefixAt q l) := by
  have hfine : (compute q).maxLevel.val < l.val + matchDepth ↔
      (compute q).maxLevel.val - 1 ≤ l.val := by
    simp only [matchDepth]
    omega
  rw [Agrees, Compared, hfine, levels_eq_levelHash_prefixAt, levels_eq_levelHash_prefixAt]
  simp only [and_assoc]

/-- There is no collision exactly when the hash is injective on the prefixes compared. -/
theorem noCollision_iff : NoCollision p q ↔
    ∀ l, Compared p q l → Set.InjOn levelHash {prefixAt p l, prefixAt q l} := by
  have hpair : ∀ l, Set.InjOn levelHash {prefixAt p l, prefixAt q l} ↔
      (levelHash (prefixAt p l) = levelHash (prefixAt q l) → prefixAt p l = prefixAt q l) :=
    fun l => Set.injOn_pair
  simp only [NoCollision, agrees_compute_iff, hpair, and_imp]
  exact Iff.rfl

/-! ## What a match says about the bytes -/

/-- A payload that falls short of the first threshold is its own prefix, at every level. -/
lemma prefixAt_eq_self (h : p.size < thresholds.get 0) (l : Fin 6) : prefixAt p l = p :=
  extract_eq_self (h.le.trans (thresholds_mono 0 l (Fin.zero_le l)))

/-- A prefix that one payload covers and that is the same in both is covered by the other too. -/
lemma covers_of_prefixAt_eq (hq : Covers q.size l) (hsame : prefixAt p l = prefixAt q l) :
    Covers p.size l := by
  have hsize := congrArg ByteArray.size hsame
  simp only [prefixAt, ByteArray.size_extract] at hsize
  have hle : thresholds.get l ≤ q.size := hq
  change thresholds.get l ≤ p.size
  omega

/-- A level below the highest one is covered. -/
lemma covers_of_lt_maxLevelOf {size : Nat} (h : l < maxLevelOf size) : Covers size l := by
  rcases (le_maxLevelOf_iff size _).1 (le_refl (maxLevelOf size)) with hzero | hcov
  · rw [hzero] at h
    exact absurd h (Fin.not_lt_zero l)
  · exact hcov.mono h.le

/-- Without collisions a match is a prefix that is compared and the same in both payloads. -/
lemma NoCollision.continues_iff_exists (h : NoCollision p q) :
    (compute p).continues (compute q) = true ↔
      ∃ l, Compared p q l ∧ prefixAt p l = prefixAt q l := by
  rw [Fingerprint.continues_iff]
  constructor
  · rintro ⟨l, hagrees⟩
    exact ⟨l, (agrees_compute_iff.1 hagrees).1, h l hagrees⟩
  · rintro ⟨l, hcompared, hsame⟩
    exact ⟨l, agrees_compute_iff.2 ⟨hcompared, congrArg levelHash hsame⟩⟩

/-- **A match in bytes**: if the hash is injective on the prefixes compared, the incoming payload
continues the existing one exactly when some prefix that is compared is the same in both.  If the
highest level of the incoming payload is not the first one, a match means that the two share all
bytes up to the threshold of the level before; and payloads that fall short of the first threshold
match only when they are equal.

**Proof sketch.** A level is the hash of a prefix (`levels_eq_levelHash`), so the prefixes behind a
level on which the payloads agree are the same.  The level before the highest one is the lowest that
is compared, and its prefix is part of the others. -/
theorem continues_iff_prefixes (p q : ByteArray)
    (h : ∀ l, Compared p q l → Set.InjOn levelHash {prefixAt p l, prefixAt q l}) :
    ((compute p).continues (compute q) = true ↔
        ∃ l, Compared p q l ∧ prefixAt p l = prefixAt q l) ∧
      (∀ l : Fin 6, l.val + 1 = (compute q).maxLevel.val →
        (compute p).continues (compute q) = true →
          thresholds.get l ≤ p.size ∧ thresholds.get l ≤ q.size ∧ prefixAt p l = prefixAt q l) ∧
      (p.size < thresholds.get 0 → q.size < thresholds.get 0 →
        (compute p).continues (compute q) = true → p = q) := by
  have hmatch := (noCollision_iff.2 h).continues_iff_exists
  refine ⟨hmatch, fun l hl hcont => ?_, fun hp hq hcont => ?_⟩
  · obtain ⟨m, ⟨hlowest, -, -⟩, hsame⟩ := hmatch.1 hcont
    have hlm : l ≤ m := by
      rw [Fin.le_def]
      omega
    have hprefix : prefixAt p l = prefixAt q l :=
      extract_eq_of_le (thresholds_mono l m hlm) hsame
    have hlt : l < maxLevelOf q.size := by
      change l < (compute q).maxLevel
      rw [Fin.lt_def]
      omega
    have hq : Covers q.size l := covers_of_lt_maxLevelOf hlt
    exact ⟨covers_of_prefixAt_eq hq hprefix, hq, hprefix⟩
  · obtain ⟨m, -, hsame⟩ := hmatch.1 hcont
    rwa [prefixAt_eq_self hp, prefixAt_eq_self hq] at hsame

/-- Payloads with the first 64 bytes in common match and share the first eight; the payloads abc and
abd, which have different hashes, do not match. -/
theorem continues_iff_prefixes_shared :
    let p := ByteArray.mk (Array.replicate 64 0 ++ #[1])
    let q := ByteArray.mk (Array.replicate 64 0 ++ #[2, 2])
    (∀ l, Compared p q l → Set.InjOn levelHash {prefixAt p l, prefixAt q l}) ∧
      (0 : Fin 6).val + 1 = (compute q).maxLevel.val ∧
      (compute p).continues (compute q) = true ∧ thresholds.get 0 ≤ p.size ∧
      thresholds.get 0 ≤ q.size ∧ prefixAt p 0 = prefixAt q 0 ∧
      let a := "abc".toUTF8
      let b := "abd".toUTF8
      (∀ l, Compared a b l → Set.InjOn levelHash {prefixAt a l, prefixAt b l}) ∧
        a.size < thresholds.get 0 ∧ b.size < thresholds.get 0 ∧
        (compute a).continues (compute b) = false := by
  intro p q
  have hlevel : (compute q).maxLevel = 1 := by
    change maxLevelOf q.size = 1
    decide +kernel
  have hshared : ∀ l : Fin 6, l ≤ 1 → prefixAt p l = prefixAt q l := by decide +kernel
  have hinj : ∀ l, Compared p q l → Set.InjOn levelHash {prefixAt p l, prefixAt q l} := by
    intro l hcompared
    exact Set.injOn_pair.2 fun _ => hshared l (hlevel ▸ hcompared.2.1)
  have hnext : (0 : Fin 6).val + 1 = (compute q).maxLevel.val := by rw [hlevel]; rfl
  obtain ⟨hmatch, hbytes, -⟩ := continues_iff_prefixes p q hinj
  have hcont : (compute p).continues (compute q) = true := by
    refine hmatch.2 ⟨1, ⟨?_, ?_, ?_⟩, hshared 1 le_rfl⟩
    · rw [hlevel]
      decide
    · rw [hlevel]
    · change 1 ≤ maxLevelOf p.size
      decide +kernel
  obtain ⟨hp, hq, hprefix⟩ := hbytes 0 hnext hcont
  refine ⟨hinj, hnext, hcont, hp, hq, hprefix, ?_⟩
  intro a b
  have ha : a.size < thresholds.get 0 := by decide +kernel
  have hb : b.size < thresholds.get 0 := by decide +kernel
  have hinj' : ∀ l, Compared a b l → Set.InjOn levelHash {prefixAt a l, prefixAt b l} := by
    intro l _
    rw [prefixAt_eq_self ha, prefixAt_eq_self hb]
    -- the two digests are computed
    have hne : levelHash a ≠ levelHash b := by decide +kernel
    exact Set.injOn_pair.2 fun hsame => absurd hsame hne
  refine ⟨hinj', ha, hb, ?_⟩
  rw [← Bool.not_eq_true]
  intro hcont'
  have hsame : a = b := (continues_iff_prefixes a b hinj').2.2 ha hb hcont'
  exact absurd hsame (by decide +kernel)

end Fingerprint

end InFlight
