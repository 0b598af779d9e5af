import InFlight.Proofs.Registry.Refinement

/-!
# Well-formed registries

In every registry that is reached by recording, the recency chain visits every slot once, the
chain of each account visits exactly its slots, each of them once, the accounts with a chain
are exactly the owners of slots, and neither the arena nor a chain exceeds its limit.

## Main definitions

* `InFlight.Registry.WellFormed` — the invariant, in terms of arena, links and chains.

## Main results

* `InFlight.Registry.wellFormed_run` — it holds after every run, whatever the limits.

## Design

What it means for a chain to visit a list is `Chain.Visits`: it speaks about both neighbours of
every element and about walks of any length, so it excludes cycles and loose ends.
-/

set_option relaxedAutoImplicit false
set_option autoImplicit false

namespace InFlight

namespace Registry

/-- The chains of the registry are sound: the recency chain visits every slot of the arena, the
chain of an account its own slots, and every slot is visited by the chain of one account.  The
limits, each raised to at least one, are respected. -/
structure WellFormed (limits : Limits) (r : Registry) : Prop where
  size_le : r.size ≤ max limits.globalSlots 1
  size_recencyLinks : r.recencyLinks.size = r.size
  size_ownerLinks : r.ownerLinks.size = r.size
  recency_visits : r.recency.Visits r.recencyLinks r.recencyOrder
  mem_recencyOrder : ∀ i, i ∈ r.recencyOrder ↔ i < r.size
  mem_owners : ∀ o, o ∈ r.owners ↔ ∃ t ∈ r.tasks, t.owner = o
  owner_visits : ∀ (o : OwnerId) (chain : Chain), r.owners[o]? = some chain →
    chain.Visits r.ownerLinks (r.slotsOf o)
  mem_slotsOf : ∀ o i, i ∈ r.slotsOf o ↔ ∃ h : i < r.tasks.size, r.tasks[i].owner = o
  one_le_length : ∀ (o : OwnerId) (chain : Chain), r.owners[o]? = some chain →
    1 ≤ chain.length
  length_le : ∀ (o : OwnerId) (chain : Chain), r.owners[o]? = some chain →
    chain.length ≤ max limits.ownerSlots 1
  existsUnique_owner : ∀ i < r.size, ∃! o, i ∈ r.slotsOf o

variable {r : Registry} {ro : Roster}

/-- The slots of an account in the arena. -/
lemma Spells.mem_slotsOf (h : r.Spells ro) (hv : ro.Valid) (o : OwnerId) (i : Nat) :
    i ∈ r.slotsOf o ↔ ∃ h : i < r.tasks.size, r.tasks[i].owner = o := by
  rw [h.slotsOf_eq, hv.mem_slotsOf, ← h.getElem?_tasks]
  rcases Nat.lt_or_ge i r.tasks.size with hlt | hge
  · simp [hlt]
  · simp [Nat.not_lt.2 hge]

/-- A registry that spells a valid roster is well-formed.

**Proof sketch.** A chain that spells a list visits it (`Chain.Spells.visits`), and what the
lists hold is the invariant of rosters. -/
theorem Spells.wellFormed (h : r.Spells ro) (hv : ro.Valid) {limits : Limits}
    (hl : ro.limits = limits.clamped) : r.WellFormed limits where
  size_le := by
    rw [size, h.size_eq]
    simpa [hl, Limits.clamped] using hv.length_tasks_le
  size_recencyLinks := h.size_recencyLinks
  size_ownerLinks := h.size_ownerLinks
  recency_visits := h.recencyOrder_eq ▸ h.recency.visits
  mem_recencyOrder := by
    intro i
    rw [h.recencyOrder_eq, hv.mem_recency, size, h.size_eq]
  mem_owners := by
    intro o
    rw [Std.TreeMap.mem_iff_isSome_getElem?, h.isSome_owners, hv.isSome_owned_iff]
    simp only [← h.slotsOf_eq, h.mem_slotsOf hv]
    constructor
    · rintro ⟨i, hi, ho⟩
      exact ⟨r.tasks[i], Array.getElem_mem hi, ho⟩
    · rintro ⟨t, ht, ho⟩
      obtain ⟨i, hi, rfl⟩ := Array.getElem_of_mem ht
      exact ⟨i, hi, ho⟩
  owner_visits := by
    intro o chain hc
    have hvisits := (h.chainOf o).visits
    rw [h.slotsOf_eq]
    simpa [Registry.chainOf, hc] using hvisits
  mem_slotsOf := h.mem_slotsOf hv
  one_le_length := by
    intro o chain hc
    have hlength := (h.chainOf o).length
    obtain ⟨i, hi⟩ := (hv.isSome_owned_iff o).1 (by rw [← h.isSome_owners, hc]; rfl)
    have hpos := List.length_pos_of_mem hi
    simp only [Registry.chainOf, hc, Option.getD_some] at hlength
    omega
  length_le := by
    intro o chain hc
    have hlength := (h.chainOf o).length
    have hle := hv.length_slotsOf_le o
    simp only [Registry.chainOf, hc, Option.getD_some] at hlength
    simpa [hlength, hl, Limits.clamped] using hle
  existsUnique_owner := by
    intro i hi
    rw [size, h.size_eq] at hi
    simp only [h.slotsOf_eq]
    exact ⟨ro.ownerAt i, hv.mem_slotsOf_ownerAt hi, fun o ho => (hv.ownerAt_eq ho).symm⟩

/-- **Every reached registry is well-formed**, whatever the limits and the calls. -/
theorem wellFormed_run (limits : Limits) (calls : List Call) :
    ((empty limits).run calls).1.WellFormed limits :=
  (spells_run limits calls).wellFormed (Roster.valid_run limits calls)
    ((Roster.valid_empty limits).limits_run calls)

end Registry

end InFlight
