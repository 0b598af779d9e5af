import InFlight.Hash.Sha256

/-!
# Prefix fingerprints of a growing payload

A payload is summarised by six *levels*.  Level `i` is a truncated digest of the first
`thresholds[i]` bytes, or of the whole payload when it is shorter; `maxLevel` is the highest
level whose threshold the payload reaches.  Payloads of which one continues the other
therefore agree on every level that the shorter one covers.

One accumulator walks the payload once: between two thresholds only the newly exposed bytes
are absorbed, and at each threshold the digest is read off.

## Main definitions

* `InFlight.Fingerprint.thresholds` — the six sizes.
* `InFlight.Fingerprint` — six level hashes and the highest covered level.
* `InFlight.Fingerprint.compute` — the fingerprint of a payload.
-/

set_option relaxedAutoImplicit false
set_option autoImplicit false

namespace InFlight

/-- The hash kept of one level: the first sixteen bytes of a digest. -/
abbrev LevelHash := ByteArray

/-- Hashes are compared byte by byte. -/
local instance decEqLevelHash : DecidableEq LevelHash := ByteArray.instDecidableEq

/-- Six level hashes and the highest level that the payload reaches. -/
structure Fingerprint where
  levels : Vector LevelHash 6
  /-- The highest level whose threshold the payload reaches, zero when it reaches none. -/
  maxLevel : Fin 6
deriving DecidableEq

namespace Fingerprint

/-- The sizes in bytes at which a prefix is hashed. -/
def thresholds : Vector Nat 6 := #v[8, 64, 512, 4096, 32768, 131072]

/-- How many bytes of a digest are kept. -/
def hashLength : Nat := 16

/-- The part of a digest that is kept. -/
def truncate (digest : ByteArray) : LevelHash := digest.extract 0 hashLength

/-- The hash of a whole prefix on its own. -/
def levelHash (part : ByteArray) : LevelHash := truncate (Sha256.hash part)

/-! ## One walk over the payload -/

/-- The level hashes at the sizes `sizes`, from an accumulator that has absorbed the first
`absorbed` bytes of `data`. -/
def scan (data : ByteArray) : Sha256 → Nat → List Nat → List LevelHash
  | _, _, [] => []
  | acc, absorbed, size :: sizes =>
    let stop := max absorbed (min size data.size)
    let acc := acc.absorb (data.extract absorbed stop)
    truncate acc.digest :: scan data acc stop sizes

/-- One hash per size. -/
@[simp] theorem length_scan (data : ByteArray) (acc : Sha256) (absorbed : Nat)
    (sizes : List Nat) : (scan data acc absorbed sizes).length = sizes.length := by
  induction sizes generalizing acc absorbed with
  | nil => rfl
  | cons size sizes ih => simp [scan, ih]

/-- Level `i` is covered by a payload of `size` bytes. -/
def Covers (size : Nat) (i : Fin 6) : Prop := thresholds.get i ≤ size

instance (size : Nat) (i : Fin 6) : Decidable (Covers size i) :=
  inferInstanceAs (Decidable (_ ≤ _))

/-- The highest level that a payload of `size` bytes covers, zero when it covers none. -/
def maxLevelOf (size : Nat) : Fin 6 :=
  (List.finRange 6).foldl (fun best i => if Covers size i then i else best) 0

/-- The fingerprint of a payload. -/
def compute (data : ByteArray) : Fingerprint where
  levels := ⟨(scan data Sha256.start 0 thresholds.toList).toArray, by simp⟩
  maxLevel := maxLevelOf data.size

/-- The hash at the highest covered level. -/
def finest (fp : Fingerprint) : LevelHash := fp.levels.get fp.maxLevel

end Fingerprint

end InFlight
