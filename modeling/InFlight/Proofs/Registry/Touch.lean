import InFlight.Proofs.Registry.Refinement

/-!
# Touching a slot

A touched slot becomes the most recently touched one.  One that is so already is left where it is,
which is not a different result: to take the last element out of a chain and to put it back leaves
every link and both ends as they were.

## Main definitions

* `InFlight.Registry.SameButRecency` — registries that differ in the recency chain alone.

## Main results

* `InFlight.Registry.touch_eq_relink` — to touch a slot is to take it out and to put it back.
-/

set_option relaxedAutoImplicit false
set_option autoImplicit false

namespace InFlight

namespace Registry

variable {r : Registry} {xs : List Nat} {i : Nat}

/-- The registries have the same slots with the same content, and the same chains of accounts with
the same links. -/
structure SameButRecency (r r' : Registry) : Prop where
  limits : r'.limits = r.limits
  tasks : r'.tasks = r.tasks
  ownerLinks : r'.ownerLinks = r.ownerLinks
  owners : r'.owners = r.owners

/-- Unlinking from the recency chain changes nothing else. -/
lemma sameButRecency_unlinkRecency (r : Registry) (i : Nat) :
    SameButRecency r (r.unlinkRecency i) :=
  ⟨rfl, rfl, rfl, rfl⟩

/-- Linking at the end of the recency chain changes nothing else. -/
lemma sameButRecency_pushRecency (r : Registry) (i : Nat) : SameButRecency r (r.pushRecency i) :=
  ⟨rfl, rfl, rfl, rfl⟩

/-- The recency chain without a slot. -/
lemma spells_unlinkRecency (h : r.recency.Spells r.recencyLinks xs) (hi : i ∈ xs) :
    (r.unlinkRecency i).recency.Spells (r.unlinkRecency i).recencyLinks (xs.erase i) :=
  h.unlink hi

/-- The recency chain after a slot is touched. -/
lemma spells_touch (h : r.recency.Spells r.recencyLinks xs) (hi : i ∈ xs) :
    (r.touch i).recency.Spells (r.touch i).recencyLinks (xs.erase i ++ [i]) := by
  rw [touch_eq h]
  refine (spells_unlinkRecency h hi).pushBack h.nodup.not_mem_erase ?_
  simpa [unlinkRecency] using h.linked.lt_size i hi

/-- **Touching is relinking**, in every registry whose recency chain spells some list, and for every
slot in that list, wherever it stands.  Touching gives the very registry that taking the slot out
and putting it at the back gives.  Taking it out erases it from the order of recency and leaves it
without neighbours, and touching it moves it to the end of that order.  Neither of the two steps
changes anything but the recency chain and its links, in any registry and for any slot.

**Proof sketch.** Only a slot that is last already makes a difference in how it is touched, and the
last element of a chain may be taken out and put back (`Chain.Spells.relink_last`).  The rest is the
effect of the two steps on the list. -/
theorem touch_eq_relink (h : r.recency.Spells r.recencyLinks xs) (hi : i ∈ xs) :
    r.touch i = (r.unlinkRecency i).pushRecency i ∧
      r.recencyOrder = xs ∧
      (r.unlinkRecency i).recencyOrder = xs.erase i ∧
      (r.unlinkRecency i).recencyLinks.neighbours i = {} ∧
      (r.touch i).recency.Spells (r.touch i).recencyLinks (xs.erase i ++ [i]) ∧
      (r.touch i).recencyOrder = xs.erase i ++ [i] ∧
      ∀ (s : Registry) (j : Nat),
        SameButRecency s (s.unlinkRecency j) ∧ SameButRecency s (s.pushRecency j) := by
  have hlt := h.linked.lt_size i hi
  have htouch := spells_touch h hi
  refine ⟨touch_eq h i, h.toList_eq, (spells_unlinkRecency h hi).toList_eq, ?_, htouch,
    htouch.toList_eq, fun s j => ⟨sameButRecency_unlinkRecency s j, sameButRecency_pushRecency s j⟩⟩
  simp only [unlinkRecency, Links.unlink]
  rw [Links.neighbours_setIfInBounds _ _ _ _ (by simpa using hlt), if_pos rfl]

/-- Three slots, of which the first, the one in the middle or the last is touched, and a slot that
is the only one. -/
theorem touch_eq_relink_three_slots :
    let task : Task := ⟨1, "a", 0, Fingerprint.compute .empty⟩
    let three : Registry :=
      { limits := {}
        tasks := #[task, task, task]
        recencyLinks := #[⟨some 2, some 1⟩, ⟨some 0, none⟩, ⟨none, some 0⟩]
        recency := ⟨some 2, some 1, 3⟩ }
    let one : Registry :=
      { limits := {}, tasks := #[task], recencyLinks := #[{}], recency := ⟨some 0, some 0, 1⟩ }
    three.recency.Spells three.recencyLinks [2, 0, 1] ∧
      (three.touch 2).recencyOrder = [0, 1, 2] ∧
      (three.touch 0).recencyOrder = [2, 1, 0] ∧
      (three.touch 1).recencyOrder = [2, 0, 1] ∧
      three = (three.unlinkRecency 1).pushRecency 1 ∧
      one.recency.Spells one.recencyLinks [0] ∧
      one = (one.unlinkRecency 0).pushRecency 0 := by
  intro task three one
  have hthree : three.recency.Spells three.recencyLinks [2, 0, 1] :=
    ⟨by decide, ⟨by decide, rfl, by decide, rfl, by decide, rfl, trivial⟩, rfl, rfl, rfl⟩
  have hone : one.recency.Spells one.recencyLinks [0] :=
    ⟨by decide, ⟨by decide, rfl, trivial⟩, rfl, rfl, rfl⟩
  obtain ⟨-, -, -, -, -, hfirst, -⟩ := touch_eq_relink hthree (i := 2) (by decide)
  obtain ⟨-, -, -, -, -, hmiddle, -⟩ := touch_eq_relink hthree (i := 0) (by decide)
  obtain ⟨hlast, -, -, -, -, horder, -⟩ := touch_eq_relink hthree (i := 1) (by decide)
  obtain ⟨honly, -⟩ := touch_eq_relink hone (i := 0) (by decide)
  exact ⟨hthree, hfirst, hmiddle, horder, hlast, hone, honly⟩

end Registry

end InFlight
