import Mathlib.Order.Bounds.Defs
import InFlight.Proofs.Fingerprint.Growth
import InFlight.Proofs.Hash.Sha256

/-!
# One walk over the payload hashes all prefixes

The level hashes are read off one accumulator that walks over the payload, and each of them is the
hash of its prefix on its own: at every threshold the accumulator has absorbed exactly the bytes
before it, each of them once.  Where the payload ends before a threshold nothing more is absorbed,
and the levels from there on are the hash of the whole payload.

The walk takes pieces of the payload and the first bytes of digests.  `scanWithin?` is the same walk
with every such range checked; it never fails.

## Main definitions

* `InFlight.Fingerprint.slice?` — a range of bytes, if it lies within the buffer.
* `InFlight.Fingerprint.scanWithin?` — the walk with every range checked.

## Main results

* `InFlight.Fingerprint.scan_eq_map`, `InFlight.Fingerprint.scanWithin?_eq_scan` — the walk from any
  point on.
* `InFlight.Fingerprint.levels_eq_levelHash` — a level is the hash of its prefix.
* `InFlight.Fingerprint.compute_single_pass` — levels, highest level, ranges and growth together.
-/

set_option relaxedAutoImplicit false
set_option autoImplicit false

namespace InFlight

namespace Fingerprint

variable {data : ByteArray} {absorbed size : Nat} {sizes : List Nat}

/-! ## The walk with checked ranges -/

/-- The bytes of a buffer from `start` up to `stop`, if this is a range within it. -/
def slice? (buffer : ByteArray) (start stop : Nat) : Option ByteArray :=
  if start ≤ stop ∧ stop ≤ buffer.size then some (buffer.extract start stop) else none

/-- An accumulator that has absorbed the first `absorbed` bytes of `data` goes on to `stop`; if that
brings no new byte, it stays where it is. -/
def advance? (data : ByteArray) (acc : Sha256) (absorbed stop : Nat) : Option (Sha256 × Nat) :=
  if absorbed < stop then (slice? data absorbed stop).map fun piece => (acc.absorb piece, stop)
  else some (acc, absorbed)

/-- The level hashes at the sizes `sizes`, from an accumulator that has absorbed the first
`absorbed` bytes of `data`; there are none if a range is not within its buffer. -/
def scanWithin? (data : ByteArray) : Sha256 → Nat → List Nat → Option (List LevelHash)
  | _, _, [] => some []
  | acc, absorbed, size :: sizes => do
    let (acc, absorbed) ← advance? data acc absorbed (min size data.size)
    let hash ← slice? acc.digest 0 hashLength
    let hashes ← scanWithin? data acc absorbed sizes
    return hash :: hashes

/-! ## What the accumulator holds -/

/-- The accumulator that has absorbed the first `n` bytes of a payload. -/
def prefixState (data : ByteArray) (n : Nat) : Sha256 := Sha256.start.absorb (data.extract 0 n)

/-- Absorbing the bytes up to a point further on. -/
lemma absorb_prefixState {m n : Nat} (h : m ≤ n) :
    (prefixState data m).absorb (data.extract m n) = prefixState data n := by
  rw [prefixState, Sha256.absorb_absorb, prefixState,
    ← ByteArray.extract_eq_extract_append_extract m (Nat.zero_le m) h]

/-- The hash read off there is that of the bytes before it. -/
lemma truncate_digest_prefixState (data : ByteArray) (n : Nat) :
    truncate (prefixState data n).digest = levelHash (data.extract 0 n) := by
  rw [prefixState, Sha256.digest_absorb_start, levelHash]

/-- Sizes that a walk can still visit: they ascend, and the bytes absorbed so far are no more than
the payload has up to any of them. -/
def Ahead (data : ByteArray) (absorbed : Nat) (sizes : List Nat) : Prop :=
  sizes.Pairwise (· ≤ ·) ∧ ∀ size ∈ sizes, absorbed ≤ min size data.size

/-- The next prefix ends no earlier than what is absorbed. -/
lemma Ahead.head (h : Ahead data absorbed (size :: sizes)) : absorbed ≤ min size data.size :=
  h.2 size List.mem_cons_self

/-- Behind the next prefix all others are still ahead. -/
lemma Ahead.tail (h : Ahead data absorbed (size :: sizes)) :
    Ahead data (min size data.size) sizes := by
  obtain ⟨hsize, hsizes⟩ := List.pairwise_cons.1 h.1
  refine ⟨hsizes, fun next hnext => ?_⟩
  have hle : size ≤ next := hsize next hnext
  omega

/-- **The walk hashes prefixes**: from a point that it has reached on, the hashes are those of the
prefixes on their own.

**Proof sketch.** Induction on the sizes.  At each of them the accumulator absorbs the bytes since
the last one, so that it has absorbed the prefix. -/
theorem scan_eq_map (h : Ahead data absorbed sizes) :
    scan data (prefixState data absorbed) absorbed sizes =
      sizes.map fun size => levelHash (data.extract 0 (min size data.size)) := by
  induction sizes generalizing absorbed with
  | nil => rfl
  | cons size sizes ih =>
    have hstop : max absorbed (min size data.size) = min size data.size := max_eq_right h.head
    rw [scan]
    simp only [hstop]
    rw [absorb_prefixState h.head, truncate_digest_prefixState, ih h.tail, List.map_cons]

/-- A slice within the buffer can be taken. -/
lemma slice?_eq_some {buffer : ByteArray} {start stop : Nat} (h : start ≤ stop)
    (hstop : stop ≤ buffer.size) : slice? buffer start stop = some (buffer.extract start stop) :=
  if_pos ⟨h, hstop⟩

/-- A walk with checked ranges gets to the next size: it absorbs the bytes that are new, or there
are none. -/
lemma advance?_eq_some {stop : Nat} (h : absorbed ≤ stop) (hstop : stop ≤ data.size) :
    advance? data (prefixState data absorbed) absorbed stop =
      some (prefixState data stop, stop) := by
  unfold advance?
  rcases Nat.lt_or_eq_of_le h with hlt | rfl
  · rw [if_pos hlt, slice?_eq_some h hstop, Option.map_some, absorb_prefixState h]
  · rw [if_neg (Nat.lt_irrefl _)]

/-- The first bytes of a digest that is read off are within it. -/
lemma slice?_digest (data : ByteArray) (n : Nat) :
    slice? (prefixState data n).digest 0 hashLength =
      some (truncate (prefixState data n).digest) := by
  refine slice?_eq_some (Nat.zero_le _) ?_
  rw [prefixState, Sha256.digest_absorb_start, Sha256.size_hash]
  decide

/-- **The ranges of a walk are within their buffers**: checking them changes nothing. -/
theorem scanWithin?_eq_scan (h : Ahead data absorbed sizes) :
    scanWithin? data (prefixState data absorbed) absorbed sizes =
      some (scan data (prefixState data absorbed) absorbed sizes) := by
  induction sizes generalizing absorbed with
  | nil => rfl
  | cons size sizes ih =>
    have hstop : max absorbed (min size data.size) = min size data.size := max_eq_right h.head
    have hwithin : min size data.size ≤ data.size := min_le_right _ _
    rw [scanWithin?, scan]
    simp only [hstop, advance?_eq_some h.head hwithin, absorb_prefixState h.head,
      Option.bind_eq_bind, Option.bind_some, slice?_digest, ih h.tail]
    rfl

/-! ## The levels -/

/-- A walk can visit all thresholds from the start. -/
lemma ahead_thresholds (data : ByteArray) : Ahead data 0 thresholds.toList :=
  ⟨by decide, fun _ _ => Nat.zero_le _⟩

/-- Nothing absorbed is the state from which hashing starts. -/
lemma prefixState_zero (data : ByteArray) : prefixState data 0 = Sha256.start := by
  rw [prefixState, ByteArray.extract_same]
  rfl

/-- The threshold of a level stands at its place in the list. -/
lemma getElem?_thresholds (l : Fin 6) : thresholds.toList[l.val]? = some (thresholds.get l) := by
  rw [List.getElem?_eq_getElem (by simp)]
  rfl

/-- **A level is the hash of its prefix**, that of the whole payload when it is shorter. -/
theorem levels_eq_levelHash (data : ByteArray) (l : Fin 6) :
    (compute data).levels.get l =
      levelHash (data.extract 0 (min (thresholds.get l) data.size)) := by
  have hscan := scan_eq_map (ahead_thresholds data)
  rw [prefixState_zero] at hscan
  have hlevel := getElem?_scan_thresholds data l
  rw [hscan, List.getElem?_map, getElem?_thresholds] at hlevel
  exact (Option.some.inj hlevel).symm

/-- The highest level is the greatest that the payload reaches, and level zero if it reaches
none. -/
lemma isGreatest_maxLevelOf (size : Nat) :
    IsGreatest { l | thresholds.get l ≤ size } (maxLevelOf size) ∨
      (∀ l, size < thresholds.get l) ∧ maxLevelOf size = 0 := by
  by_cases h : thresholds.get 0 ≤ size
  · exact .inl ⟨covers_maxLevelOf h, fun l hl => Covers.le_maxLevelOf hl⟩
  · have hnone : ∀ l, size < thresholds.get l := fun l =>
      lt_of_not_ge fun hl => h (Covers.mono hl (Fin.zero_le l))
    refine .inr ⟨hnone, ?_⟩
    rcases (le_maxLevelOf_iff size _).1 le_rfl with hzero | hcov
    · exact hzero
    · exact absurd hcov (hnone _).not_ge

/-- **One walk gives what hashing every prefix on its own would give.**  Every level is the hash of
the payload up to its threshold, or of the whole payload; the highest level is the greatest whose
threshold the payload reaches; the walk takes no range outside the payload or a digest; and a level
that the payload reaches stays the same when the payload grows.

**Proof sketch.** At every threshold the accumulator has absorbed the payload up to there
(`scan_eq_map`), since pieces absorbed one after the other are absorbed like one
(`Sha256.absorb_absorb`). -/
theorem compute_single_pass (data : ByteArray) :
    (∀ l, (compute data).levels.get l =
      levelHash (data.extract 0 (min (thresholds.get l) data.size))) ∧
      (IsGreatest { l | thresholds.get l ≤ data.size } (compute data).maxLevel ∨
        (∀ l, data.size < thresholds.get l) ∧ (compute data).maxLevel = 0) ∧
      scanWithin? data Sha256.start 0 thresholds.toList = some (compute data).levels.toList ∧
      ∀ (suffix : ByteArray) (l : Fin 6), thresholds.get l ≤ data.size →
        (compute (data ++ suffix)).levels.get l = (compute data).levels.get l := by
  refine ⟨levels_eq_levelHash data, isGreatest_maxLevelOf data.size, ?_, fun suffix l hl => ?_⟩
  · have hwithin := scanWithin?_eq_scan (ahead_thresholds data)
    rwa [prefixState_zero] at hwithin
  · exact levels_eq_of_extract_eq (extract_append_of_covers hl)

/-- Eight bytes reach the first level and keep it when they grow. -/
theorem compute_single_pass_eight :
    let data := ByteArray.mk (Array.replicate 8 0)
    let suffix := ByteArray.mk (Array.replicate 56 1)
    thresholds.get 0 ≤ data.size ∧
      (compute (data ++ suffix)).levels.get 0 = (compute data).levels.get 0 := by
  intro data suffix
  have hreach : thresholds.get 0 ≤ data.size := by decide
  exact ⟨hreach, (compute_single_pass data).2.2.2 suffix 0 hreach⟩

end Fingerprint

end InFlight
