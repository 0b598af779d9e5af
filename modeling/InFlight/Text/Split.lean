/-!
# Splitting at a separator

Used for comma-separated numbers, for the parts of a query and for the components of a path.

## Main definitions

* `InFlight.Text.splitList` — the parts between all separators.
* `InFlight.Text.cutList` — the parts before and after the first separator.
* `InFlight.Text.cutAt` — the same for a separator that is a list.

## Main results

* `InFlight.Text.splitList_ne_nil` — there is always at least one part.
* `InFlight.Text.not_mem_of_mem_splitList` — no part holds a separator.
* `InFlight.Text.splitList_append`, `InFlight.Text.cutList_append` — what stands on both sides of a
  separator.
-/

set_option relaxedAutoImplicit false
set_option autoImplicit false

namespace InFlight

namespace Text

variable {α : Type} [DecidableEq α]

/-- The parts between all separators: one more than there are separators. -/
def splitList (sep : α) : List α → List (List α)
  | [] => [[]]
  | a :: rest =>
    if a = sep then [] :: splitList sep rest
    else
      match splitList sep rest with
      | [] => [[a]]
      | part :: parts => (a :: part) :: parts

/-- There is always at least one part. -/
theorem splitList_ne_nil (sep : α) (l : List α) : splitList sep l ≠ [] := by
  cases l with
  | nil => simp [splitList]
  | cons a rest =>
    unfold splitList
    split
    · simp
    · split <;> simp

/-- No part holds a separator. -/
theorem not_mem_of_mem_splitList (sep : α) (l part : List α) (h : part ∈ splitList sep l) :
    sep ∉ part := by
  induction l generalizing part with
  | nil => simp_all [splitList]
  | cons a rest ih =>
    unfold splitList at h
    split at h
    · rcases List.mem_cons.1 h with rfl | h
      · simp
      · exact ih part h
    · next hne =>
      split at h
      · next hp => exact absurd hp (splitList_ne_nil sep rest)
      · next p ps hp =>
        rcases List.mem_cons.1 h with rfl | h
        · have := ih p (by simp [hp])
          simp only [List.mem_cons, not_or]
          exact ⟨fun e => hne e.symm, this⟩
        · exact ih part (by simp [hp, h])

/-- What stands on both sides of a separator is split apart. -/
theorem splitList_append (sep : α) (xs ys : List α) :
    splitList sep (xs ++ sep :: ys) = splitList sep xs ++ splitList sep ys := by
  induction xs with
  | nil => simp [splitList]
  | cons x xs ih =>
    rw [List.cons_append, splitList, splitList, ih]
    split
    · rfl
    · cases hxs : splitList sep xs with
      | nil => exact absurd hxs (splitList_ne_nil sep xs)
      | cons part parts => rfl

/-- Without a separator there is one part. -/
theorem splitList_of_notMem {sep : α} {l : List α} (h : sep ∉ l) : splitList sep l = [l] := by
  induction l with
  | nil => rfl
  | cons a rest ih =>
    rw [List.mem_cons, not_or] at h
    rw [splitList, if_neg (Ne.symm h.1), ih h.2]

/-- The part before the first separator, and the part after it if there is one. -/
def cutList (sep : α) : List α → List α × Option (List α)
  | [] => ([], none)
  | a :: rest =>
    if a = sep then ([], some rest)
    else
      let (before, after) := cutList sep rest
      (a :: before, after)

/-- Cutting behind a part without a separator. -/
theorem cutList_append {sep : α} {before : List α} (h : sep ∉ before) (after : List α) :
    cutList sep (before ++ sep :: after) = (before, some after) := by
  induction before with
  | nil => simp [cutList]
  | cons a before ih =>
    rw [List.mem_cons, not_or] at h
    rw [List.cons_append, cutList, if_neg (Ne.symm h.1), ih h.2]

/-- There is nothing to cut in a part without a separator. -/
theorem cutList_of_notMem {sep : α} {l : List α} (h : sep ∉ l) : cutList sep l = (l, none) := by
  induction l with
  | nil => rfl
  | cons a rest ih =>
    rw [List.mem_cons, not_or] at h
    rw [cutList, if_neg (Ne.symm h.1), ih h.2]

/-- Nothing is lost where a list is cut. -/
theorem exists_eq_cutList_append (sep : α) (l : List α) :
    ∃ rest, l = (cutList sep l).1 ++ rest ∧ (rest = [] ∨ rest.head? = some sep) ∧
      sep ∉ (cutList sep l).1 := by
  by_cases h : sep ∈ l
  · obtain ⟨before, after, rfl, hbefore⟩ := List.eq_append_cons_of_mem h
    rw [cutList_append hbefore]
    exact ⟨sep :: after, rfl, Or.inr rfl, hbefore⟩
  · rw [cutList_of_notMem h]
    exact ⟨[], (List.append_nil l).symm, Or.inl rfl, h⟩

/-- The part before the first separator that is a list, and the part after it if there is
one. -/
def cutAt (sep : List α) : List α → List α × Option (List α)
  | [] => ([], if sep.isEmpty then some [] else none)
  | a :: rest =>
    if sep.isPrefixOf (a :: rest) then ([], some ((a :: rest).drop sep.length))
    else
      let (before, after) := cutAt sep rest
      (a :: before, after)

/-- The parts of a text between all separators. -/
def split (sep : Char) (s : String) : List String :=
  (splitList sep s.toList).map String.ofList

/-- The part of a text before the first separator, and the part after it if there is one. -/
def cut (sep : Char) (s : String) : String × Option String :=
  let (before, after) := cutList sep s.toList
  (String.ofList before, after.map String.ofList)

end Text

end InFlight
