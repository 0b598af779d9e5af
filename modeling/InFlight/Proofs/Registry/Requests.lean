import Std.Data.String.ToInt
import InFlight.Proofs.Fingerprint.Prefixes
import InFlight.Proofs.Registry.Refinement

/-!
# Two requests of an account

A request to a model is recorded with a short payload, made of the model and the number of the
request, or of the model, the account and the time.  Different requests have different payloads,
but they differ towards the end, and a comparison may stop before it gets there.  Then the second
request continues the first, in its slot.

## Main definitions

* `InFlight.Observation.Apart` — two requests that are meant to be told apart.

## Main results

* `InFlight.Observation.requestText_ne` — their payloads differ.
* `InFlight.Registry.two_requests` — when they get two slots.
* `InFlight.Registry.not_two_slots` — that is not always.
-/

set_option relaxedAutoImplicit false
set_option autoImplicit false

namespace InFlight

namespace Observation

variable {owner : OwnerId} {name model : String} {id id' : Option String} {nanos nanos' : Int}

/-! ## The payloads of two requests -/

/-- Two requests are meant to be told apart if they have different numbers, or have none and are
made at different times. -/
def Apart (id id' : Option String) (nanos nanos' : Int) : Prop :=
  match requestNumber? id, requestNumber? id' with
  | some number, some number' => number ≠ number'
  | none, none => nanos ≠ nanos'
  | _, _ => False

/-- Requests that are meant to be told apart have different payload texts: what follows the model
is one number or the other, or what follows the model and the account is one time or the
other. -/
theorem requestText_ne (h : Apart id id' nanos nanos') :
    requestText owner model id nanos ≠ requestText owner model id' nanos' := by
  unfold Apart at h
  unfold requestText
  split at h
  case h_1 number number' hid hid' =>
    rw [hid, hid']
    exact fun htext => h ((String.append_right_inj _).1 htext)
  case h_2 hid hid' =>
    rw [hid, hid']
    exact fun htext => h (Int.repr_injective ((String.append_right_inj _).1 htext))
  case h_3 => exact h.elim

/-- An account with a positive number can make any request. -/
lemma ofRequest?_eq_some (h : 0 < owner) (name model : String) (id : Option String)
    (nanos : Int) : ofRequest? owner name model id nanos =
      some ⟨owner, name, (requestText owner model id nanos).toUTF8, h⟩ :=
  dif_pos h

end Observation

/-! ## Two calls of an account -/

namespace Roster

/-- Two calls of an account that may have two slots: the second one continues the first or gets a
slot of its own. -/
lemma run_two_calls {limits : Limits} (hg : 2 ≤ limits.globalSlots) (ho : 2 ≤ limits.ownerSlots)
    (owner : OwnerId) (name : String) (p q : ByteArray) (now now' : Int) :
    ((empty limits).run [⟨owner, name, p, now⟩, ⟨owner, name, q, now'⟩]).2 =
      [.allocated 0,
        if (Fingerprint.compute p).continues (Fingerprint.compute q) then .continued 0
        else .allocated 1] := by
  have hg' : ¬ max limits.globalSlots 1 ≤ 1 := by omega
  have ho' : ¬ max limits.ownerSlots 1 ≤ 1 := by omega
  cases hcont : (Fingerprint.compute p).continues (Fingerprint.compute q) <;>
    simp [run, record, recordFingerprint, choose, matching?, ownVictim?, victim?, apply, allocate,
      assign, continuedBy, slotsOf, empty, Limits.clamped, hg', ho', hcont]

end Roster

namespace Registry

open Fingerprint (maxLevelOf coarsestOf readSize NoCollision)

/-- Two observations, recorded one after the other in an empty registry, get two slots. -/
def OnTwoSlots (limits : Limits) (first second : Observation) (now now' : Int) : Prop :=
  let r := (empty limits).record first.owner first.name first.payload now
  (r.1.record second.owner second.name second.payload now').2.slot ≠ r.2.slot

/-- Two observations of an account that may have two slots get them exactly when the second one
does not continue the first. -/
lemma onTwoSlots_iff (limits : Limits) (hg : 2 ≤ limits.globalSlots)
    (ho : 2 ≤ limits.ownerSlots) {owner : OwnerId} (howner : 0 < owner) (name : String)
    (p q : ByteArray) (now now' : Int) :
    OnTwoSlots limits ⟨owner, name, p, howner⟩ ⟨owner, name, q, howner⟩ now now' ↔
      (Fingerprint.compute p).continues (Fingerprint.compute q) = false := by
  have hrun := ((spells_empty limits).run (Roster.valid_empty limits)
    [⟨owner, name, p, now⟩, ⟨owner, name, q, now'⟩]).2.trans
      (Roster.run_two_calls hg ho owner name p q now now')
  obtain ⟨hfirst, hrest⟩ := List.cons.inj hrun
  obtain ⟨hsecond, -⟩ := List.cons.inj hrest
  have hslots : OnTwoSlots limits ⟨owner, name, p, howner⟩ ⟨owner, name, q, howner⟩ now now' ↔
      (if (Fingerprint.compute p).continues (Fingerprint.compute q) then Outcome.continued 0
        else .allocated 1).slot ≠ (Outcome.allocated 0).slot := by
    rw [← hfirst, ← hsecond]
    rfl
  rw [hslots]
  cases (Fingerprint.compute p).continues (Fingerprint.compute q) <;> simp [Outcome.slot]

/-! ## Two requests -/

/-- **When two requests get two slots**: requests of an account that are meant to be told apart
have different payloads.  If the hashes compared have no collision, they get two slots exactly
when the first payload does not reach the coarsest level compared or the two differ in the bytes
read.

**Proof sketch.** The second request gets a slot of its own exactly when it does not continue the
first (`onTwoSlots_iff`), and without collisions that is a comparison of bytes
(`Fingerprint.NoCollision.continues_iff`). -/
theorem two_requests (limits : Limits) (hg : 2 ≤ limits.globalSlots) (ho : 2 ≤ limits.ownerSlots)
    {owner : OwnerId} (howner : 0 < owner) (name model : String) {id id' : Option String}
    {nanos nanos' : Int} (hapart : Observation.Apart id id' nanos nanos') (now now' : Int) :
    ∃ first second : Observation,
      Observation.ofRequest? owner name model id nanos = some first ∧
      Observation.ofRequest? owner name model id' nanos' = some second ∧
      first.payload ≠ second.payload ∧
      (NoCollision first.payload second.payload →
        (OnTwoSlots limits first second now now' ↔
          maxLevelOf first.payload.size < coarsestOf second.payload.size ∨
            first.payload.extract 0 (readSize second.payload.size) ≠
              second.payload.extract 0 (readSize second.payload.size))) := by
  refine ⟨_, _, Observation.ofRequest?_eq_some howner name model id nanos,
    Observation.ofRequest?_eq_some howner name model id' nanos', ?_, fun hcol => ?_⟩
  · exact fun hpayload => Observation.requestText_ne hapart (String.toByteArray_inj.1 hpayload)
  · rw [onTwoSlots_iff limits hg ho howner, ← Bool.not_eq_true, hcol.continues_iff, not_and_or,
      not_le]

/-- The texts m:5:1 and m:5:2 are read as a whole, and the requests get two slots.  The texts
gpt-4o:5:123 and gpt-4o:5:456 have the eight bytes that are read in common, and the requests share
a slot. -/
theorem two_requests_m_gpt :
    (∃ first second : Observation,
      Observation.ofRequest? 5 "u" "m" none 1 = some first ∧
      Observation.ofRequest? 5 "u" "m" none 2 = some second ∧
      OnTwoSlots {} first second 1 2) ∧
    ∃ first second : Observation,
      Observation.ofRequest? 5 "u" "gpt-4o" none 123 = some first ∧
      Observation.ofRequest? 5 "u" "gpt-4o" none 456 = some second ∧
      ¬ OnTwoSlots {} first second 1 2 := by
  have hfive : (0 : OwnerId) < 5 := by decide
  constructor
  · have hapart : Observation.Apart none none 1 2 := by
      simp [Observation.Apart, Observation.requestNumber?]
    obtain ⟨first, second, hfirst, hsecond, -, hiff⟩ :=
      two_requests {} (by decide) (by decide) hfive "u" "m" hapart 1 2
    refine ⟨first, second, hfirst, hsecond, ?_⟩
    obtain rfl := Option.some.inj hfirst
    obtain rfl := Option.some.inj hsecond
    refine (hiff (Fingerprint.noCollision_of_not_continues ?_)).2 ?_
    · -- the two digests are computed
      decide +kernel
    · decide +kernel
  · have hapart : Observation.Apart none none 123 456 := by
      simp [Observation.Apart, Observation.requestNumber?]
    obtain ⟨first, second, hfirst, hsecond, -, hiff⟩ :=
      two_requests {} (by decide) (by decide) hfive "u" "gpt-4o" hapart 1 2
    refine ⟨first, second, hfirst, hsecond, ?_⟩
    obtain rfl := Option.some.inj hfirst
    obtain rfl := Option.some.inj hsecond
    rw [hiff (Fingerprint.continues_of_short (by decide) (by decide)).1]
    decide

/-- Two requests whose payloads are short and begin with the same eight bytes share a slot. -/
lemma not_onTwoSlots (limits : Limits) (hg : 2 ≤ limits.globalSlots)
    (ho : 2 ≤ limits.ownerSlots) {owner : OwnerId} (howner : 0 < owner) (name : String)
    {p q : ByteArray} (hq : q.size < 64) (hsame : p.extract 0 8 = q.extract 0 8) (now now' : Int) :
    ¬ OnTwoSlots limits ⟨owner, name, p, howner⟩ ⟨owner, name, q, howner⟩ now now' := by
  rw [onTwoSlots_iff limits hg ho howner, (Fingerprint.continues_of_short hq hsame).2]
  decide

/-- **Requests that are meant to be told apart may share a slot**, both when they have no number and
are made at different times and when they have different numbers. -/
theorem not_two_slots :
    (¬ ∀ (limits : Limits) (owner : OwnerId) (name model : String) (id id' : Option String)
      (nanos nanos' now now' : Int) (first second : Observation),
      2 ≤ limits.globalSlots → 2 ≤ limits.ownerSlots →
      Observation.ofRequest? owner name model id nanos = some first →
      Observation.ofRequest? owner name model id' nanos' = some second →
      Observation.requestNumber? id = none → Observation.requestNumber? id' = none →
      nanos ≠ nanos' → NoCollision first.payload second.payload →
      OnTwoSlots limits first second now now') ∧
    ¬ ∀ (limits : Limits) (owner : OwnerId) (name model : String) (id id' : Option String)
      (number number' : String) (nanos nanos' now now' : Int) (first second : Observation),
      2 ≤ limits.globalSlots → 2 ≤ limits.ownerSlots →
      Observation.ofRequest? owner name model id nanos = some first →
      Observation.ofRequest? owner name model id' nanos' = some second →
      Observation.requestNumber? id = some number →
      Observation.requestNumber? id' = some number' →
      number ≠ number' → NoCollision first.payload second.payload →
      OnTwoSlots limits first second now now' := by
  have hfive : (0 : OwnerId) < 5 := by decide
  constructor
  · intro h
    have hsize : "gpt-4o:5:456".toUTF8.size < 64 := by decide
    have hsame : "gpt-4o:5:123".toUTF8.extract 0 8 = "gpt-4o:5:456".toUTF8.extract 0 8 := by decide
    refine not_onTwoSlots {} (by decide) (by decide) hfive "u" hsize hsame 1 2 ?_
    exact h {} 5 "u" "gpt-4o" none none 123 456 1 2 _ _ (by decide) (by decide) rfl rfl rfl rfl
      (by decide) (Fingerprint.continues_of_short hsize hsame).1
  · intro h
    have hsize : "gpt-4o:req-2".toUTF8.size < 64 := by decide
    have hsame : "gpt-4o:req-1".toUTF8.extract 0 8 = "gpt-4o:req-2".toUTF8.extract 0 8 := by decide
    refine not_onTwoSlots {} (by decide) (by decide) hfive "u" hsize hsame 1 2 ?_
    exact h {} 5 "u" "gpt-4o" (some "req-1") (some "req-2") "req-1" "req-2" 0 0 1 2 _ _ (by decide)
      (by decide) rfl rfl rfl rfl (by decide) (Fingerprint.continues_of_short hsize hsame).1

end Registry

end InFlight
