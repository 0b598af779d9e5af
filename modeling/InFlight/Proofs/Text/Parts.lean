import Mathlib.Data.List.DropRight
import Mathlib.Tactic.Lemma
import InFlight.Text.Blank
import InFlight.Text.Split

/-!
# The parts of a text

A text with separators is made of parts in exactly one way, if no part may hold a separator.  In
the same way a text is made of a core that neither starts nor ends with a blank, and of blanks
around it.  What splitting and trimming give is described here by what the text is made of.

## Main definitions

* `InFlight.Text.Parted` — the parts that a text is made of.
* `InFlight.Text.Trims` — the core of a text.

## Main results

* `InFlight.Text.parted_iff`, `InFlight.Text.trims_iff` — both are unique, and are what splitting
  and trimming give.
-/

set_option relaxedAutoImplicit false
set_option autoImplicit false

namespace InFlight

namespace Text

/-! ## Parts -/

section Parts

variable {α : Type} {sep : α} {l : List α} {parts : List (List α)}

/-- A text is made of one or more parts that hold no separator, and of a separator between any
two. -/
structure Parted (sep : α) (l : List α) (parts : List (List α)) : Prop where
  ne_nil : parts ≠ []
  sep_notMem : ∀ part ∈ parts, sep ∉ part
  intercalate : [sep].intercalate parts = l

variable [DecidableEq α]

/-- Splitting is the splitting of lists in the library. -/
lemma splitList_eq_splitOn (sep : α) (l : List α) : splitList sep l = l.splitOn sep := by
  induction l with
  | nil => rfl
  | cons a rest ih =>
    rw [splitList, ih, List.splitOn, List.splitOn, List.splitOnP_cons_eq_if_modifyHead]
    simp only [beq_iff_eq]
    split_ifs
    · rfl
    · cases hrest : rest.splitOnP (· == sep) with
      | nil => exact absurd hrest (List.splitOnP_ne_nil _ rest)
      | cons part parts => rfl

/-- **The parts of a text** are those that splitting gives, and no others. -/
theorem parted_iff : Parted sep l parts ↔ splitList sep l = parts := by
  constructor
  · rintro ⟨hne, hmem, rfl⟩
    rw [splitList_eq_splitOn, List.splitOn_intercalate sep hmem hne]
  · rintro rfl
    refine ⟨splitList_ne_nil sep l, fun part => not_mem_of_mem_splitList sep l part, ?_⟩
    rw [splitList_eq_splitOn, List.intercalate_splitOn]

end Parts

/-! ## Cores -/

variable {l core : List Char}

/-- A text is made of a core that neither starts nor ends with a blank, and of blanks around it. -/
structure Trims (l core : List Char) : Prop where
  around : ∃ before after, l = before ++ core ++ after ∧
    (∀ c ∈ before, isBlank c = true) ∧ ∀ c ∈ after, isBlank c = true
  head : ∀ c ∈ core.head?, isBlank c = false
  last : ∀ c ∈ core.getLast?, isBlank c = false

/-- What trimming leaves is the core. -/
lemma trims_trimList (l : List Char) : Trims l (trimList l) := by
  have htrim : trimList l = (l.dropWhile isBlank).rdropWhile isBlank := rfl
  rw [htrim]
  refine ⟨⟨l.takeWhile isBlank, (l.dropWhile isBlank).rtakeWhile isBlank, ?_,
    fun c => List.mem_takeWhile_imp, fun c => List.mem_rtakeWhile_imp⟩, fun c hc => ?_,
    fun c hc => ?_⟩
  · rw [List.append_assoc, List.rdropWhile_append_rtakeWhile, List.takeWhile_append_dropWhile]
  · obtain ⟨rest, hrest⟩ := List.rdropWhile_prefix isBlank (l.dropWhile isBlank)
    have hstop := List.head?_dropWhile_not isBlank l
    have hne := List.ne_nil_of_mem (List.mem_of_head? hc)
    rw [← hrest, List.head?_append_of_ne_nil _ hne, hc] at hstop
    exact hstop
  · obtain ⟨hne, rfl⟩ := List.mem_getLast?_eq_getLast hc
    simpa using List.rdropWhile_last_not isBlank _ hne

/-- Blanks are dropped up to what does not start with one. -/
lemma dropWhile_isBlank_append {blanks rest : List Char} (hblanks : ∀ c ∈ blanks, isBlank c = true)
    (hrest : ∀ c ∈ rest.head?, isBlank c = false) : (blanks ++ rest).dropWhile isBlank = rest := by
  rw [List.dropWhile_append_of_pos hblanks]
  cases rest with
  | nil => rfl
  | cons c rest => rw [List.dropWhile_cons_of_neg (by simp [hrest c rfl])]

/-- **The core of a text** is what trimming leaves, and nothing else. -/
theorem trims_iff : Trims l core ↔ trimList l = core := by
  constructor
  · rintro ⟨⟨before, after, rfl, hbefore, hafter⟩, hhead, hlast⟩
    rcases eq_or_ne core [] with rfl | hne
    · have hnil : (before ++ [] ++ after).dropWhile isBlank = [] := by
        simpa [List.dropWhile_eq_nil_iff, or_imp, forall_and] using ⟨hbefore, hafter⟩
      rw [trimList, hnil]
      rfl
    · have hstart : ∀ c ∈ (core ++ after).head?, isBlank c = false := by
        rwa [List.head?_append_of_ne_nil _ hne]
      have hend : ∀ c ∈ core.reverse.head?, isBlank c = false := by
        rwa [List.head?_reverse]
      have hback : ∀ c ∈ after.reverse, isBlank c = true := fun c hc =>
        hafter c (List.mem_reverse.1 hc)
      rw [trimList, List.append_assoc, dropWhile_isBlank_append hbefore hstart, List.reverse_append,
        dropWhile_isBlank_append hback hend, List.reverse_reverse]
  · rintro rfl
    exact trims_trimList l

/-- A blank text has no core. -/
lemma trimList_eq_nil_iff : trimList l = [] ↔ ∀ c ∈ l, isBlank c = true := by
  rw [← trims_iff]
  constructor
  · rintro ⟨⟨before, after, rfl, hbefore, hafter⟩, -, -⟩
    simpa [or_imp, forall_and] using ⟨hbefore, hafter⟩
  · intro h
    exact ⟨⟨l, [], by simp, h, by simp⟩, by simp, by simp⟩

end Text

end InFlight
