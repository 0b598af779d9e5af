import InFlight.Fingerprint

/-!
# When a payload continues an earlier one

`Fingerprint.continues existing incoming` decides whether `incoming` belongs to the lineage
recorded as `existing`.  Only the two finest levels that the incoming payload covers are
compared, and a level counts only if the existing payload covers it as well; so a short
common beginning never suffices, and a payload that stopped short of those two levels is
never continued.

## Main definitions

* `InFlight.Fingerprint.matchDepth` — how many of the finest levels are compared.
* `InFlight.Fingerprint.Agrees` — the two fingerprints agree on a level that counts.
* `InFlight.Fingerprint.continues` — some level agrees.
-/

set_option relaxedAutoImplicit false
set_option autoImplicit false

namespace InFlight

namespace Fingerprint

/-- How many of the finest levels covered by the incoming payload are compared. -/
def matchDepth : Nat := 2

/-- Level `l` is one of the finest levels of `incoming`, `existing` covers it, and the two
hashes are equal. -/
def Agrees (existing incoming : Fingerprint) (l : Fin 6) : Prop :=
  incoming.maxLevel.val < l.val + matchDepth ∧ l ≤ incoming.maxLevel ∧
    l ≤ existing.maxLevel ∧ existing.levels.get l = incoming.levels.get l

instance (existing incoming : Fingerprint) (l : Fin 6) : Decidable (Agrees existing incoming l) :=
  inferInstanceAs (Decidable (_ ∧ _ ∧ _ ∧ _))

/-- Whether `incoming` continues the lineage of `existing`. -/
def continues (existing incoming : Fingerprint) : Bool :=
  (List.finRange 6).any fun l => decide (Agrees existing incoming l)

/-- One payload continues another exactly when some level agrees. -/
theorem continues_iff (existing incoming : Fingerprint) :
    continues existing incoming = true ↔ ∃ l, Agrees existing incoming l := by
  simp [continues]

end Fingerprint

end InFlight
