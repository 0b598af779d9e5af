import Mathlib.Order.Fin.Basic
import Mathlib.Tactic.Lemma
import InFlight.Fingerprint.Lineage

/-!
# The levels of a fingerprint

A level is covered by a payload when the payload reaches its threshold.  The hash of a covered
level depends only on the bytes up to the threshold, so two payloads with a common beginning
agree on all levels that lie within it.

## Main results

* `InFlight.Fingerprint.le_maxLevelOf_iff` — which levels count as covered.
* `InFlight.Fingerprint.levels_eq_of_extract_eq` — a common beginning has a common hash.
* `InFlight.Fingerprint.continues_self` — every payload continues itself.
-/

set_option relaxedAutoImplicit false
set_option autoImplicit false

namespace InFlight

namespace Fingerprint

/-! ## Covered levels -/

/-- The thresholds ascend. -/
lemma thresholds_mono : ∀ l m : Fin 6, l ≤ m → thresholds.get l ≤ thresholds.get m := by decide

/-- Every level below a covered one is covered. -/
lemma Covers.mono {size : Nat} {l m : Fin 6} (h : Covers size m) (hlm : l ≤ m) :
    Covers size l :=
  le_trans (thresholds_mono l m hlm) h

/-- Keeping the last covered level of an ascending list gives the highest one, or the level to
begin with when none is covered. -/
lemma foldl_covers (size : Nat) (xs : List (Fin 6)) (b : Fin 6) (hx : xs.Pairwise (· ≤ ·))
    (hb : ∀ i ∈ xs, b ≤ i) :
    let m := xs.foldl (fun best i => if Covers size i then i else best) b
    (m = b ∨ Covers size m) ∧ b ≤ m ∧ ∀ i ∈ xs, Covers size i → i ≤ m := by
  induction xs generalizing b with
  | nil => simp
  | cons j xs ih =>
    rw [List.pairwise_cons] at hx
    by_cases hj : Covers size j
    · obtain ⟨hcov, hle, hmax⟩ := ih j hx.2 hx.1
      simp only [List.foldl_cons, hj, if_true, List.forall_mem_cons]
      refine ⟨.inr ?_, (hb j List.mem_cons_self).trans hle, fun _ => hle, hmax⟩
      rcases hcov with heq | hcov
      · rwa [heq]
      · exact hcov
    · obtain ⟨hcov, hle, hmax⟩ := ih b hx.2 fun i hi => hb i (List.mem_cons_of_mem j hi)
      simp only [List.foldl_cons, hj, if_false, List.forall_mem_cons]
      exact ⟨hcov, hle, False.elim, hmax⟩

/-- The levels up to the highest covered one are covered; level zero counts even when it is
not. -/
theorem le_maxLevelOf_iff (size : Nat) (l : Fin 6) :
    l ≤ maxLevelOf size ↔ l = 0 ∨ Covers size l := by
  obtain ⟨hcov, -, hmax⟩ := foldl_covers size (List.finRange 6) 0 (by decide) (by decide)
  change maxLevelOf size = 0 ∨ Covers size (maxLevelOf size) at hcov
  constructor
  · intro hl
    rcases hcov with hzero | hcov
    · left
      rw [hzero] at hl
      exact le_antisymm hl (Fin.zero_le l)
    · exact .inr (hcov.mono hl)
  · rintro (rfl | hl)
    · exact Fin.zero_le _
    · exact hmax l (List.mem_finRange l) hl

/-- No level that is covered lies above the finest one. -/
lemma Covers.le_maxLevelOf {size : Nat} {l : Fin 6} (h : Covers size l) : l ≤ maxLevelOf size :=
  (le_maxLevelOf_iff size l).2 (.inr h)

/-- A longer payload reaches no lower level. -/
lemma maxLevelOf_mono {m n : Nat} (h : m ≤ n) : maxLevelOf m ≤ maxLevelOf n :=
  (le_maxLevelOf_iff n _).2 (((le_maxLevelOf_iff m _).1 le_rfl).imp_right fun hm => le_trans hm h)

/-- A payload that reaches the first threshold covers its highest level. -/
lemma covers_maxLevelOf {size : Nat} (h : thresholds.get 0 ≤ size) :
    Covers size (maxLevelOf size) := by
  rcases (le_maxLevelOf_iff size _).1 le_rfl with hzero | hcov
  · rw [hzero]
    exact h
  · exact hcov

/-! ## Common beginnings -/

/-- Payloads that share the first `n` bytes share every piece of them. -/
lemma extract_eq_of_le {data data' : ByteArray} {k m n : Nat} (hmn : m ≤ n)
    (hsame : data.extract 0 n = data'.extract 0 n) : data.extract k m = data'.extract k m := by
  have hpiece := congrArg (fun d => d.extract k m) hsame
  simpa only [ByteArray.extract_extract, Nat.zero_add, min_eq_left hmn] using hpiece

/-- The first hashes of a scan are the scan of the first sizes. -/
lemma take_scan (data : ByteArray) (acc : Sha256) (absorbed n : Nat) (sizes : List Nat) :
    (scan data acc absorbed sizes).take n = scan data acc absorbed (sizes.take n) := by
  induction sizes generalizing acc absorbed n with
  | nil => simp [scan]
  | cons size sizes ih =>
    cases n with
    | zero => simp [scan]
    | succ n => simp [scan, ih]

/-- Two payloads with the same first `n` bytes are scanned alike up to there. -/
lemma scan_eq_of_extract_eq {data data' : ByteArray} {n : Nat} (hn : n ≤ data.size)
    (hn' : n ≤ data'.size) (hsame : data.extract 0 n = data'.extract 0 n) (acc : Sha256)
    {absorbed : Nat} (ha : absorbed ≤ n) {sizes : List Nat} (hs : ∀ size ∈ sizes, size ≤ n) :
    scan data acc absorbed sizes = scan data' acc absorbed sizes := by
  induction sizes generalizing acc absorbed with
  | nil => rfl
  | cons size sizes ih =>
    have hsize : size ≤ n := hs size List.mem_cons_self
    have hstop : max absorbed (min size data.size) = max absorbed (min size data'.size) := by
      omega
    have hpiece : data.extract absorbed (max absorbed (min size data'.size)) =
        data'.extract absorbed (max absorbed (min size data'.size)) :=
      extract_eq_of_le (by omega) hsame
    simp only [scan, hstop, hpiece]
    exact congrArg _ (ih _ (by omega) fun s hs' => hs s (List.mem_cons_of_mem _ hs'))

/-- The levels of a payload are what a scan over all thresholds gives. -/
lemma getElem?_scan_thresholds (data : ByteArray) (l : Fin 6) :
    (scan data Sha256.start 0 thresholds.toList)[l.val]? = some ((compute data).levels.get l) := by
  rw [List.getElem?_eq_getElem (by simp)]
  rfl

/-- Two payloads that cover a level and have the same bytes up to its threshold agree on it.

**Proof sketch.** The hashes up to the level are those of a scan that stops there, and such a
scan only sees bytes before the threshold. -/
lemma levels_eq_of_covers {data data' : ByteArray} {l : Fin 6} (h : Covers data.size l)
    (h' : Covers data'.size l)
    (hsame : data.extract 0 (thresholds.get l) = data'.extract 0 (thresholds.get l)) :
    (compute data).levels.get l = (compute data').levels.get l := by
  have hbelow : ∀ size ∈ thresholds.toList.take (l + 1), size ≤ thresholds.get l := by
    intro size hsize
    obtain ⟨i, hi, rfl⟩ := List.getElem_of_mem hsize
    rw [List.length_take] at hi
    rw [List.getElem_take]
    exact thresholds_mono ⟨i, by omega⟩ l (Fin.mk_le_of_le_val (by omega))
  have hscan := scan_eq_of_extract_eq h h' hsame Sha256.start (Nat.zero_le _) hbelow
  rw [← take_scan, ← take_scan] at hscan
  have hget := congrArg (fun hashes => hashes[l.val]?) hscan
  simp only [List.getElem?_take, Nat.lt_add_one, if_true, getElem?_scan_thresholds] at hget
  exact Option.some.inj hget

/-- The first `n` bytes of a payload that has no more are all of it. -/
lemma extract_eq_self {data : ByteArray} {n : Nat} (h : data.size ≤ n) :
    data.extract 0 n = data := by
  ext1
  simpa using .inr h

/-- **A common beginning has a common hash**: two payloads with the same bytes up to a threshold
agree on the level.  A payload that stops short of the threshold counts as a whole. -/
theorem levels_eq_of_extract_eq {data data' : ByteArray} {l : Fin 6}
    (hsame : data.extract 0 (thresholds.get l) = data'.extract 0 (thresholds.get l)) :
    (compute data).levels.get l = (compute data').levels.get l := by
  have hsize : min (thresholds.get l) data.size = min (thresholds.get l) data'.size := by
    simpa using congrArg ByteArray.size hsame
  by_cases h : thresholds.get l ≤ data.size
  · have h' : thresholds.get l ≤ data'.size := by omega
    exact levels_eq_of_covers h h' hsame
  · have hshort : data.size ≤ thresholds.get l := by omega
    have hshort' : data'.size ≤ thresholds.get l := by omega
    rw [extract_eq_self hshort, extract_eq_self hshort'] at hsame
    rw [hsame]

/-! ## Agreement -/

/-- Two payloads with the same bytes up to a threshold agree on the level, if it is within reach of
both and fine enough to be compared. -/
lemma agrees_of_extract_eq {data data' : ByteArray} {l : Fin 6}
    (hfine : (maxLevelOf data'.size).val < l.val + matchDepth) (h : l ≤ maxLevelOf data.size)
    (h' : l ≤ maxLevelOf data'.size)
    (hsame : data.extract 0 (thresholds.get l) = data'.extract 0 (thresholds.get l)) :
    Agrees (compute data) (compute data') l :=
  ⟨hfine, h', h, levels_eq_of_extract_eq hsame⟩

/-- A payload that covers only levels too coarse to be compared is not continued. -/
lemma continues_eq_false {existing incoming : Fingerprint}
    (h : existing.maxLevel.val + matchDepth ≤ incoming.maxLevel.val) :
    existing.continues incoming = false := by
  rw [← Bool.not_eq_true, continues_iff]
  rintro ⟨l, hfine, -, hle, -⟩
  have hle' : l.val ≤ existing.maxLevel.val := hle
  omega

/-- Every payload continues itself: the highest covered level agrees. -/
theorem continues_self (fp : Fingerprint) : fp.continues fp = true :=
  (continues_iff fp fp).2 ⟨fp.maxLevel, by simp [matchDepth], le_rfl, le_rfl, rfl⟩

end Fingerprint

end InFlight
