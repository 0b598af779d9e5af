import Mathlib.Data.List.Nodup
import Mathlib.Data.List.Perm.Subperm
import Mathlib.Data.List.Range
import Mathlib.Tactic.Lemma
import InFlight.Registry.Chain

/-!
# Splicing chains

A chain that spells a list is walked along exactly that list, from either end.  Taking an
element out of the chain erases it from the list, putting one at the back appends it, and
neither touches the links of an element outside the chain.

## Main definitions

* `InFlight.Chain.Visits` — what it means to walk a chain: which elements are met, where the
  walk stops, and that the previous neighbours lead back.

## Main results

* `InFlight.Chain.Spells.toList_eq` — the view of a chain is the list it spells.
* `InFlight.Chain.Spells.visits` — a chain that spells a list visits it.
* `InFlight.Chain.Spells.unlink`, `InFlight.Chain.Spells.pushBack` — the two operations.
* `InFlight.Chain.Spells.of_neighbours_eq` — a chain only depends on the links of its elements.
* `InFlight.Chain.Spells.relink_last` — the last element may be taken out and put back.

## Design

A stretch of a chain is described by `Chain.Linked`, with what stands before and behind it as
parameters, so a chain can be cut at an element and joined again: `Chain.linked_append` does
both.  Each of the two pointer updates of a splice then concerns one end of one stretch.
-/

set_option relaxedAutoImplicit false
set_option autoImplicit false

namespace InFlight

namespace Links

variable (links : Links) (i j : Nat) (p : Option Nat)

/-! ## The links after an update -/

/-- Setting a link forwards keeps the number of links. -/
@[simp]
lemma size_setNext (next : Option Nat) : (links.setNext p next).size = links.size := by
  cases p <;> simp [setNext]

/-- Setting a link backwards keeps the number of links. -/
@[simp]
lemma size_setPrev (prev : Option Nat) : (links.setPrev p prev).size = links.size := by
  cases p <;> simp [setPrev]

/-- Setting a next neighbour changes the element whose neighbour it is, and no other. -/
lemma neighbours_setNext (next : Option Nat) (h : j < links.size) :
    (links.setNext p next).neighbours j =
      if p = some j then { links.neighbours j with next } else links.neighbours j := by
  cases p with
  | none => rfl
  | some k =>
    by_cases hk : k = j
    · subst hk
      simp [setNext, neighbours, Array.getElem_modify, h]
    · simp [setNext, neighbours, Array.getElem?_modify, hk]

/-- Setting a previous neighbour changes the element whose neighbour it is, and no other. -/
lemma neighbours_setPrev (prev : Option Nat) (h : j < links.size) :
    (links.setPrev p prev).neighbours j =
      if p = some j then { links.neighbours j with prev } else links.neighbours j := by
  cases p with
  | none => rfl
  | some k =>
    by_cases hk : k = j
    · subst hk
      simp [setPrev, neighbours, Array.getElem_modify, h]
    · simp [setPrev, neighbours, Array.getElem?_modify, hk]

/-- Overwriting the links of one element. -/
lemma neighbours_setIfInBounds (n : Neighbours) (h : j < links.size) :
    Links.neighbours (links.setIfInBounds i n) j = if i = j then n else links.neighbours j := by
  by_cases hi : i = j
  · subst hi
    simp [neighbours, h]
  · simp [neighbours, hi]

/-- An element appended to the arena leaves the links of the others alone. -/
lemma neighbours_push (n : Neighbours) (h : j < links.size) :
    Links.neighbours (links.push n) j = links.neighbours j := by
  simp [neighbours, Array.getElem?_push, h.ne]

/-- Links are the same when every element has the same neighbours. -/
lemma ext_neighbours {links links' : Links} (hs : links.size = links'.size)
    (h : ∀ j < links.size, links.neighbours j = links'.neighbours j) : links = links' := by
  refine Array.ext hs fun j hj hj' => ?_
  simpa [neighbours, hj, hj'] using h j hj

/-- Unlinking keeps the number of links. -/
@[simp]
lemma size_unlink (chain : Chain) : (links.unlink chain i).1.size = links.size := by
  simp [unlink]

/-- Linking at the end keeps the number of links. -/
@[simp]
lemma size_pushBack (chain : Chain) : (links.pushBack chain i).1.size = links.size := by
  simp [pushBack]

end Links

namespace Chain

variable {links links' : Links} {chain : Chain} {xs ys : List Nat} {i j : Nat}
  {prev next : Option Nat}

/-! ## Stretches of a chain -/

/-- A stretch only depends on the links of its elements. -/
lemma Linked.of_neighbours_eq (h : Linked links prev xs next) (hs : links.size ≤ links'.size)
    (hn : ∀ i ∈ xs, links'.neighbours i = links.neighbours i) : Linked links' prev xs next := by
  induction xs generalizing prev with
  | nil => trivial
  | cons i rest ih =>
    obtain ⟨hi, hni, hrest⟩ := h
    refine ⟨by omega, ?_, ih hrest fun j hj => hn j (List.mem_cons_of_mem i hj)⟩
    rw [hn i List.mem_cons_self, hni]

/-- The elements of a stretch exist. -/
lemma Linked.lt_size (h : Linked links prev xs next) : ∀ i ∈ xs, i < links.size := by
  induction xs generalizing prev with
  | nil => simp
  | cons i rest ih =>
    obtain ⟨hi, -, hrest⟩ := h
    exact List.forall_mem_cons.2 ⟨hi, ih hrest⟩

/-- Two stretches make one when each ends where the other begins. -/
lemma linked_append : Linked links prev (xs ++ ys) next ↔
    Linked links prev xs (ys.head?.or next) ∧ Linked links (xs.getLast?.or prev) ys next := by
  induction xs generalizing prev with
  | nil => simp [Linked]
  | cons i rest ih =>
    have hlast : (i :: rest).getLast?.or prev = rest.getLast?.or (some i) := by
      cases rest <;> simp [List.getLast?_cons]
    simp only [List.cons_append, Linked, ih, hlast, List.head?_append, Option.or_assoc, and_assoc]

/-- Moving the end of a stretch to another element behind it. -/
lemma Linked.setNext_getLast (h : Linked links prev xs next) (hx : xs.Nodup) (n : Option Nat) :
    Linked (links.setNext xs.getLast? n) prev xs n := by
  induction xs using List.reverseRecOn with
  | nil => trivial
  | append_singleton rest i _ =>
    rw [linked_append] at h ⊢
    obtain ⟨hrest, hi, hni, -⟩ := h
    simp only [List.getLast?_concat]
    refine ⟨hrest.of_neighbours_eq (by simp) fun j hj => ?_, by simpa using hi, ?_, trivial⟩
    · have hij : i ≠ j := by
        rintro rfl
        exact (List.nodup_append.1 hx).2.2 i hj i (by simp) rfl
      rw [Links.neighbours_setNext _ _ _ _ (hrest.lt_size j hj)]
      simp [hij]
    · rw [Links.neighbours_setNext _ _ _ _ hi, hni]
      simp

/-- Moving the start of a stretch behind another element. -/
lemma Linked.setPrev_head (h : Linked links prev xs next) (hx : xs.Nodup) (p : Option Nat) :
    Linked (links.setPrev xs.head? p) p xs next := by
  cases xs with
  | nil => trivial
  | cons i rest =>
    obtain ⟨hi, hni, hrest⟩ := h
    refine ⟨by simpa using hi, ?_, hrest.of_neighbours_eq (by simp) fun j hj => ?_⟩
    · rw [Links.neighbours_setPrev _ _ _ _ hi, hni]
      simp
    · have hij : i ≠ j := by
        rintro rfl
        exact (List.nodup_cons.1 hx).1 hj
      rw [Links.neighbours_setPrev _ _ _ _ (hrest.lt_size j hj)]
      simp [hij]

/-- A next neighbour set outside a stretch leaves the stretch as it is. -/
lemma Linked.setNext_of_notMem (h : Linked links prev xs next) {p : Option Nat}
    (hp : ∀ i ∈ p, i ∉ xs) (n : Option Nat) : Linked (links.setNext p n) prev xs next := by
  refine h.of_neighbours_eq (by simp) fun j hj => ?_
  rw [Links.neighbours_setNext _ _ _ _ (h.lt_size j hj), if_neg (fun e : p = some j => hp j e hj)]

/-- A previous neighbour set outside a stretch leaves the stretch as it is. -/
lemma Linked.setPrev_of_notMem (h : Linked links prev xs next) {p : Option Nat}
    (hp : ∀ i ∈ p, i ∉ xs) (n : Option Nat) : Linked (links.setPrev p n) prev xs next := by
  refine h.of_neighbours_eq (by simp) fun j hj => ?_
  rw [Links.neighbours_setPrev _ _ _ _ (h.lt_size j hj), if_neg (fun e : p = some j => hp j e hj)]

/-- Links overwritten outside a stretch leave the stretch as it is. -/
lemma Linked.setIfInBounds_of_notMem (h : Linked links prev xs next) (hi : i ∉ xs)
    (n : Neighbours) : Linked (links.setIfInBounds i n) prev xs next := by
  refine h.of_neighbours_eq (by simp) fun j hj => ?_
  rw [Links.neighbours_setIfInBounds _ _ _ _ (h.lt_size j hj), if_neg]
  rintro rfl
  exact hi hj

/-- A stretch with nothing behind it is walked to its end. -/
lemma Linked.walk (h : Linked links prev xs none) {fuel : Nat} (hf : xs.length ≤ fuel) :
    links.walk fuel xs.head? = xs := by
  induction xs generalizing prev fuel with
  | nil => cases fuel <;> rfl
  | cons i rest ih =>
    obtain ⟨-, hni, hrest⟩ := h
    obtain ⟨fuel, rfl⟩ : ∃ n, fuel = n + 1 := ⟨fuel - 1, by simp at hf; omega⟩
    have hrec := ih hrest (by simpa using hf)
    simp [Links.walk, hni, hrec]

/-! ## Whole chains -/

/-- A chain only depends on the links of its elements. -/
lemma Spells.of_neighbours_eq (h : Spells chain links xs) (hs : links.size ≤ links'.size)
    (hn : ∀ i ∈ xs, links'.neighbours i = links.neighbours i) : Spells chain links' xs :=
  { h with linked := h.linked.of_neighbours_eq hs hn }

/-- A chain cut at one of its elements: the stretch before it, and the stretch behind it. -/
lemma Spells.cut (h : Spells chain links xs) (hi : i ∈ xs) :
    ∃ as bs, xs = as ++ i :: bs ∧ (as ++ bs).Nodup ∧ i ∉ as ∧ i ∉ bs ∧ i < links.size ∧
      links.neighbours i = { prev := as.getLast?, next := bs.head? } ∧
      Linked links none as (some i) ∧ Linked links (some i) bs none := by
  obtain ⟨as, bs, rfl⟩ := List.append_of_mem hi
  have hnodup := List.nodup_middle.1 h.nodup
  have hnotMem : i ∉ as ++ bs := (List.nodup_cons.1 hnodup).1
  obtain ⟨has, hlt, hni, hbs⟩ := linked_append.1 h.linked
  refine ⟨as, bs, rfl, (List.nodup_cons.1 hnodup).2, ?_, ?_, hlt, ?_, by simpa using has, hbs⟩
  · exact fun hm => hnotMem (List.mem_append_left bs hm)
  · exact fun hm => hnotMem (List.mem_append_right as hm)
  · simpa using hni

/-- Unlinking an element changes no links but those of the elements of its chain. -/
lemma Spells.neighbours_unlink (h : Spells chain links xs) (hi : i ∈ xs) (hj : j ∉ xs)
    (hlt : j < links.size) : (links.unlink chain i).1.neighbours j = links.neighbours j := by
  obtain ⟨as, bs, rfl, -, -, -, -, hni, -, -⟩ := h.cut hi
  have hnext : as.getLast? ≠ some j := fun e => hj (by simp [List.mem_of_getLast? e])
  have hprev : bs.head? ≠ some j := fun e => hj (by simp [List.mem_of_head? e])
  have hij : i ≠ j := by
    rintro rfl
    exact hj hi
  simp only [Links.unlink, hni]
  rw [Links.neighbours_setIfInBounds _ _ _ _ (by simpa using hlt), if_neg hij,
    Links.neighbours_setPrev _ _ _ _ (by simpa using hlt), if_neg hprev,
    Links.neighbours_setNext _ _ _ _ hlt, if_neg hnext]

/-- **Unlinking erases**: taking an element out of a chain erases it from the list that the
chain spells.

**Proof sketch.** Cut the chain at the element into `as` and `bs`. The first update moves the
end of `as` in front of `bs`, the second moves the start of `bs` behind `as`, and each leaves
the other stretch alone since no element occurs twice; so the two stretches can be joined. -/
theorem Spells.unlink (h : Spells chain links xs) (hi : i ∈ xs) :
    Spells (links.unlink chain i).2 (links.unlink chain i).1 (xs.erase i) := by
  obtain ⟨as, bs, rfl, hnodup, hias, hibs, hlt, hni, has, hbs⟩ := h.cut hi
  obtain ⟨hnas, hnbs, hdisj⟩ := List.nodup_append.1 hnodup
  have herase : (as ++ i :: bs).erase i = as ++ bs := by
    rw [List.erase_append_right _ hias, List.erase_cons_head]
  have hlast : ∀ k ∈ as.getLast?, k ∉ bs := fun k hk hm =>
    hdisj k (List.mem_of_getLast? hk) k hm rfl
  have hhead : ∀ k ∈ bs.head?, k ∉ as := fun k hk hm =>
    hdisj k hm k (List.mem_of_head? hk) rfl
  rw [herase]
  refine ⟨hnodup, ?_, ?_, ?_, ?_⟩
  · simp only [Links.unlink, hni]
    rw [linked_append, Option.or_none, Option.or_none]
    constructor
    · have hnext := (has.setNext_getLast hnas bs.head?).setPrev_of_notMem hhead as.getLast?
      exact hnext.setIfInBounds_of_notMem hias {}
    · have hprev := (hbs.setNext_of_notMem hlast bs.head?).setPrev_head hnbs as.getLast?
      exact hprev.setIfInBounds_of_notMem hibs {}
  · cases as <;> simp [Links.unlink, hni, h.first]
  · rcases List.eq_nil_or_concat bs with rfl | ⟨cs, k, rfl⟩ <;>
      simp [Links.unlink, hni, h.last, List.getLast?_cons]
  · simp [Links.unlink, h.length]

/-- Pushing an element changes no links but its own and those of the elements of the chain. -/
lemma Spells.neighbours_pushBack (h : Spells chain links xs) (hij : i ≠ j) (hj : j ∉ xs)
    (hlt : j < links.size) : (links.pushBack chain i).1.neighbours j = links.neighbours j := by
  have hlast : chain.last ≠ some j := fun e => hj (List.mem_of_getLast? (h.last ▸ e))
  simp only [Links.pushBack]
  rw [Links.neighbours_setIfInBounds _ _ _ _ (by simpa using hlt), if_neg hij,
    Links.neighbours_setNext _ _ _ _ hlt, if_neg hlast]

/-- **Pushing appends**: putting an element outside a chain at its back appends it to the list
that the chain spells.

**Proof sketch.** The first update moves the end of the chain in front of the element, the
second gives the element its own links; it becomes a stretch of length one behind the old. -/
theorem Spells.pushBack (h : Spells chain links xs) (hi : i ∉ xs) (hlt : i < links.size) :
    Spells (links.pushBack chain i).2 (links.pushBack chain i).1 (xs ++ [i]) := by
  refine ⟨?_, ?_, ?_, ?_, ?_⟩
  · rw [List.nodup_append_comm]
    exact List.nodup_cons.2 ⟨hi, h.nodup⟩
  · refine linked_append.2 ⟨?_, by simpa [Links.pushBack] using hlt, ?_, trivial⟩
    · simp only [Links.pushBack, h.last]
      exact (h.linked.setNext_getLast h.nodup (some i)).setIfInBounds_of_notMem hi _
    · simp only [Links.pushBack]
      rw [Links.neighbours_setIfInBounds _ _ _ _ (by simpa using hlt), if_pos rfl]
      simp [h.last]
  · cases xs <;> simp [Links.pushBack, h.first, h.last, List.getLast?_cons]
  · simp [Links.pushBack]
  · simp [Links.pushBack, h.length]

/-! ## Walking a chain -/

/-- A walk along a chain with as many steps as it has elements, or more, meets them all. -/
lemma Spells.walk (h : Spells chain links xs) {fuel : Nat} (hf : xs.length ≤ fuel) :
    links.walk fuel chain.first = xs := by
  rw [h.first]
  exact h.linked.walk hf

/-- A chain has no more elements than the arena. -/
lemma Spells.length_le_size (h : Spells chain links xs) : xs.length ≤ links.size := by
  have hsub : xs ⊆ List.range links.size := fun i hi => List.mem_range.2 (h.linked.lt_size i hi)
  simpa using (h.nodup.subperm hsub).length_le

/-- The view of a chain is the list that it spells. -/
theorem Spells.toList_eq (h : Spells chain links xs) : chain.toList links = xs :=
  h.walk h.length_le_size

/-- Walking the chain along the next neighbours from its first element meets exactly `xs`, each
element once, and stops at its last element, however many more steps are allowed; the
previous neighbours lead back along the same way, and only the first element has none. -/
structure Visits (chain : Chain) (links : Links) (xs : List Nat) : Prop where
  nodup : xs.Nodup
  lt_size : ∀ i ∈ xs, i < links.size
  walk : ∀ fuel, xs.length ≤ fuel → links.walk fuel chain.first = xs
  last : chain.last = xs.getLast?
  length : chain.length = xs.length
  next_eq_none_iff : ∀ i ∈ xs, (links.neighbours i).next = none ↔ chain.last = some i
  prev_eq_none_iff : ∀ i ∈ xs, (links.neighbours i).prev = none ↔ chain.first = some i
  prev_eq_some_iff : ∀ i ∈ xs, ∀ j,
    (links.neighbours i).prev = some j ↔ j ∈ xs ∧ (links.neighbours j).next = some i

/-- The next neighbour of the element before `i` is `i`. -/
lemma Linked.next_of_getLast (h : Linked links prev xs next) (hj : xs.getLast? = some j) :
    (links.neighbours j).next = next := by
  obtain ⟨as, rfl⟩ := List.getLast?_eq_some_iff.1 hj
  obtain ⟨-, -, hnj, -⟩ := linked_append.1 h
  simp [hnj]

/-- The previous neighbour of the element behind `j` is `j`. -/
lemma Linked.prev_of_head (h : Linked links prev xs next) (hi : xs.head? = some i) :
    (links.neighbours i).prev = prev := by
  obtain ⟨bs, rfl⟩ := List.head?_eq_some_iff.1 hi
  obtain ⟨-, hni, -⟩ := h
  simp [hni]

/-- The neighbours of an element of a chain are in the chain. -/
lemma Spells.neighbours_mem (h : Spells chain links xs) (hi : i ∈ xs) :
    (∀ j ∈ (links.neighbours i).prev, j ∈ xs) ∧ ∀ j ∈ (links.neighbours i).next, j ∈ xs := by
  obtain ⟨as, bs, rfl, -, -, -, -, hni, -, -⟩ := h.cut hi
  rw [hni]
  exact ⟨fun j hj => List.mem_append_left _ (List.mem_of_getLast? hj),
    fun j hj => List.mem_append_right _ (List.mem_cons_of_mem i (List.mem_of_head? hj))⟩

/-- The ends of a chain are in the chain. -/
lemma Spells.ends_mem (h : Spells chain links xs) :
    (∀ j ∈ chain.first, j ∈ xs) ∧ ∀ j ∈ chain.last, j ∈ xs := by
  rw [h.first, h.last]
  exact ⟨fun j hj => List.mem_of_head? hj, fun j hj => List.mem_of_getLast? hj⟩

/-- The ends of a chain exist. -/
lemma Spells.ends_lt (h : Spells chain links xs) :
    (∀ j ∈ chain.first, j < links.size) ∧ ∀ j ∈ chain.last, j < links.size :=
  ⟨fun j hj => h.linked.lt_size j (h.ends_mem.1 j hj),
    fun j hj => h.linked.lt_size j (h.ends_mem.2 j hj)⟩

/-- A chain that spells a list visits it.

**Proof sketch.** The links of an element are the ends of the two stretches left when the chain
is cut there, so it has no neighbour on a side exactly when the stretch on that side is empty,
and what stands at the end of the stretch before it points to it. -/
theorem Spells.visits (h : Spells chain links xs) : Visits chain links xs where
  nodup := h.nodup
  lt_size := h.linked.lt_size
  walk := fun _ => h.walk
  last := h.last
  length := h.length
  next_eq_none_iff := by
    intro i hi
    obtain ⟨as, bs, rfl, -, -, hibs, -, hni, -, -⟩ := h.cut hi
    rw [hni, h.last]
    cases bs with
    | nil => simp
    | cons k bs =>
      have hne : (k :: bs).getLast? ≠ some i := fun e => hibs (List.mem_of_getLast? e)
      simpa [List.getLast?_append, List.getLast?_cons] using hne
  prev_eq_none_iff := by
    intro i hi
    obtain ⟨as, bs, rfl, -, hias, -, -, hni, -, -⟩ := h.cut hi
    rw [hni, h.first]
    cases as with
    | nil => simp
    | cons k as =>
      have hne : k ≠ i := by
        rintro rfl
        exact hias List.mem_cons_self
      simpa using hne
  prev_eq_some_iff := by
    intro i hi j
    constructor
    · intro hj
      obtain ⟨as, bs, rfl, -, -, -, -, hni, has, -⟩ := h.cut hi
      rw [hni] at hj
      exact ⟨List.mem_append_left _ (List.mem_of_getLast? hj), has.next_of_getLast hj⟩
    · rintro ⟨hj, hji⟩
      obtain ⟨as, bs, rfl, -, -, -, -, hnj, -, hbs⟩ := h.cut hj
      rw [hnj] at hji
      exact hbs.prev_of_head hji

/-! ## The last element -/

/-- A chain cut at its last element: nothing stands behind it. -/
lemma Spells.cut_last (h : Spells chain links xs) (hlast : chain.last = some i) :
    ∃ as, xs = as ++ [i] ∧ i ∉ as ∧ i < links.size ∧
      links.neighbours i = { prev := as.getLast?, next := none } ∧
      Linked links none as (some i) := by
  obtain ⟨as, bs, rfl, -, hias, hibs, hlt, hni, has, -⟩ :=
    h.cut (List.mem_of_getLast? (h.last ▸ hlast))
  have hnext := (h.visits.next_eq_none_iff i (by simp)).2 hlast
  rw [hni, List.head?_eq_none_iff] at hnext
  subst hnext
  exact ⟨as, rfl, hias, hlt, hni, has⟩

/-- **The last element of a chain may stay where it is**: taking it out and putting it back changes
neither the links nor the chain.

**Proof sketch.** The element before it loses its next neighbour and gets it back, and it is the
only one besides the last whose links are written. -/
theorem Spells.relink_last (h : Spells chain links xs) (hlast : chain.last = some i) :
    (links.unlink chain i).1.pushBack (links.unlink chain i).2 i = (links, chain) := by
  obtain ⟨as, rfl, -, hlt, hni, has⟩ := h.cut_last hlast
  have hchain : ((links.unlink chain i).1.pushBack (links.unlink chain i).2 i).2 = chain := by
    have hfirst := h.first
    have hlength := h.length
    cases chain
    cases as <;> simp_all [Links.pushBack, Links.unlink]
  refine Prod.ext (Links.ext_neighbours (by simp) fun j hj => ?_) hchain
  have hj : j < links.size := by simpa using hj
  simp only [Links.pushBack, Links.unlink, hni, Option.isNone_none, if_true]
  rw [Links.neighbours_setIfInBounds _ _ _ _ (by simpa using hj)]
  by_cases hij : i = j
  · rw [if_pos hij, ← hij, hni]
  · rw [if_neg hij, Links.neighbours_setNext _ _ _ _ (by simpa using hj),
      Links.neighbours_setIfInBounds _ _ _ _ (by simpa using hj), if_neg hij,
      show ∀ l : Links, l.setPrev none as.getLast? = l from fun _ => rfl,
      Links.neighbours_setNext _ _ _ _ hj]
    by_cases hprev : as.getLast? = some j
    · have hnext := has.next_of_getLast hprev
      rw [if_pos hprev, if_pos hprev, ← hnext]
    · rw [if_neg hprev, if_neg hprev]

end Chain

end InFlight
