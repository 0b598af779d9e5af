import Mathlib.Data.List.Basic
import Mathlib.Data.List.TakeWhile
import Mathlib.Tactic.Lemma
import InFlight.Files.Path

/-!
# Paths with another extension

A path and the same path with another extension differ in their last step only, if the latter ends
in a name at all.  So they lead to different names in the same directory.

## Main definitions

* `InFlight.Path.IsBase` — what a last step can stand behind.
* `InFlight.Path.Beside` — two paths lead to two names in one directory.

## Main results

* `InFlight.Path.steps_eq_splitLast` — the steps of a path: its base, its last step, and dots.
* `InFlight.Path.stem_append_ne` — an extension with a dot in it makes another name of every name.
* `InFlight.Path.withExtension_cases` — what a path with another extension is.
-/

set_option relaxedAutoImplicit false
set_option autoImplicit false

namespace InFlight

namespace Path

/-! ## Steps -/

/-- The steps of a path given by its characters. -/
def stepsOf (cs : List Char) : List String := steps (String.ofList cs)

/-- The steps of a path are those of its characters. -/
lemma steps_eq_stepsOf (path : String) : steps path = stepsOf path.toList := by
  rw [stepsOf, String.ofList_toList]

/-- The steps are the parts between slashes that are not empty. -/
lemma stepsOf_eq (cs : List Char) :
    stepsOf cs = ((Text.splitList '/' cs).map String.ofList).filter fun s => !s.isEmpty := by
  rw [stepsOf, steps, Text.split, String.toList_ofList]

/-- The steps on both sides of a slash. -/
lemma stepsOf_append (before after : List Char) :
    stepsOf (before ++ '/' :: after) = stepsOf before ++ stepsOf after := by
  simp only [stepsOf_eq, Text.splitList_append, List.map_append, List.filter_append]

/-- An empty path has no steps. -/
lemma stepsOf_nil : stepsOf [] = [] := rfl

/-- Some characters without a slash are one step. -/
lemma stepsOf_of_notMem {cs : List Char} (hne : cs ≠ []) (h : '/' ∉ cs) :
    stepsOf cs = [String.ofList cs] := by
  rw [stepsOf_eq, Text.splitList_of_notMem h]
  simp [hne]

/-- What is dropped at the end of a path has no step but dots. -/
lemma exists_stepsOf_dropIdle (cs : List Char) :
    ∃ n, stepsOf cs.reverse = stepsOf (dropIdle cs).reverse ++ List.replicate n "." := by
  fun_induction dropIdle cs with
  | case1 rest ih =>
    obtain ⟨n, hn⟩ := ih
    refine ⟨n, ?_⟩
    rw [List.reverse_cons, stepsOf_append, stepsOf_nil, List.append_nil, hn]
  | case2 rest ih =>
    obtain ⟨n, hn⟩ := ih
    refine ⟨n + 1, ?_⟩
    rw [List.reverse_cons, List.reverse_cons, List.append_assoc, List.singleton_append,
      stepsOf_append, hn, show stepsOf ['.'] = ["."] from by decide, List.append_assoc,
      List.replicate_succ']
  | case3 cs _ _ => exact ⟨0, by simp⟩

/-! ## The last step -/

/-- A part of a path before its last step: empty, or up to a slash. -/
def IsBase (base : String) : Prop := base = "" ∨ ∃ before, base.toList = before ++ ['/']

/-- What stands before the last name is empty or ends in a slash. -/
lemma isBase_splitLast (path : String) : IsBase (splitLast path).1 := by
  simp only [splitLast]
  cases hbase : (dropIdle path.toList.reverse).dropWhile (fun c => c != '/') with
  | nil => exact Or.inl rfl
  | cons c base =>
    have hslash := List.head?_dropWhile_not (fun c => c != '/') (dropIdle path.toList.reverse)
    rw [hbase] at hslash
    have hc : c = '/' := by simpa using hslash
    exact Or.inr ⟨base.reverse, by rw [String.toList_ofList, List.reverse_cons, hc]⟩

/-- The last step has no slash. -/
lemma slash_notMem_splitLast (path : String) : '/' ∉ (splitLast path).2.toList := by
  simp only [splitLast, String.toList_ofList, List.mem_reverse]
  intro h
  simpa using List.mem_takeWhile_imp h

/-- The steps of a path that is continued behind a base. -/
lemma steps_base_append {base : String} (h : IsBase base) (rest : String) :
    steps (base ++ rest) = steps base ++ steps rest := by
  rw [steps_eq_stepsOf, steps_eq_stepsOf base, steps_eq_stepsOf rest, String.toList_append]
  rcases h with rfl | ⟨before, hbefore⟩
  · rfl
  · rw [hbefore, List.append_assoc, List.singleton_append, stepsOf_append, stepsOf_append,
      stepsOf_nil, List.append_nil]

/-- A text without a slash is one step, unless it is empty. -/
lemma steps_of_notMem {step : String} (hne : step ≠ "") (h : '/' ∉ step.toList) :
    steps step = [step] := by
  rw [steps_eq_stepsOf, stepsOf_of_notMem (by simpa using hne) h, String.ofList_toList]

/-- What is left of a reversed path does not begin with a slash. -/
lemma head?_dropIdle (cs : List Char) : (dropIdle cs).head? ≠ some '/' := by
  fun_induction dropIdle cs with
  | case1 rest ih => exact ih
  | case2 rest ih => exact ih
  | case3 cs hslash _ =>
    intro h
    obtain ⟨rest, rfl⟩ := List.head?_eq_some_iff.1 h
    exact hslash rest rfl

/-- A path without a step has no base either. -/
lemma splitLast_fst_eq_empty {path : String} (h : (splitLast path).2 = "") :
    (splitLast path).1 = "" := by
  simp only [splitLast] at h ⊢
  have hlast : (dropIdle path.toList.reverse).takeWhile (fun c => c != '/') = [] := by
    simpa using h
  cases hcs : dropIdle path.toList.reverse with
  | nil => rfl
  | cons c cs =>
    refine absurd ?_ (head?_dropIdle path.toList.reverse)
    rw [hcs] at hlast ⊢
    by_contra hc
    rw [List.takeWhile_cons_of_pos (by simpa using hc)] at hlast
    cases hlast

/-- The steps of a path: those of its base, the last step, and dots. -/
lemma steps_eq_splitLast (path : String) :
    ∃ n, steps path =
      steps ((splitLast path).1 ++ (splitLast path).2) ++ List.replicate n "." := by
  obtain ⟨n, hn⟩ := exists_stepsOf_dropIdle path.toList.reverse
  refine ⟨n, ?_⟩
  rw [steps_eq_stepsOf, ← List.reverse_reverse path.toList, hn, steps_eq_stepsOf]
  simp only [splitLast]
  rw [String.toList_append, String.toList_ofList, String.toList_ofList, ← List.reverse_append,
    List.takeWhile_append_dropWhile]

/-! ## Beginnings -/

/-- What is dropped of a reversed path is a front of it. -/
lemma exists_append_dropIdle (cs : List Char) : ∃ idle, cs = idle ++ dropIdle cs := by
  fun_induction dropIdle cs with
  | case1 rest ih =>
    obtain ⟨idle, hidle⟩ := ih
    exact ⟨'/' :: idle, by rw [List.cons_append, ← hidle]⟩
  | case2 rest ih =>
    obtain ⟨idle, hidle⟩ := ih
    exact ⟨'.' :: '/' :: idle, by rw [List.cons_append, List.cons_append, ← hidle]⟩
  | case3 cs _ _ => exact ⟨[], rfl⟩

/-- A path with a step begins as that step behind its base. -/
lemma isAbsolute_splitLast {path : String} (h : (splitLast path).2 ≠ "") :
    isAbsolute path = isAbsolute ((splitLast path).1 ++ (splitLast path).2) := by
  obtain ⟨idle, hidle⟩ := exists_append_dropIdle path.toList.reverse
  have hpath : path.toList =
      ((splitLast path).1 ++ (splitLast path).2).toList ++ idle.reverse := by
    simp only [splitLast]
    rw [String.toList_append, String.toList_ofList, String.toList_ofList, ← List.reverse_append,
      List.takeWhile_append_dropWhile, ← List.reverse_append, ← hidle, List.reverse_reverse]
  rw [isAbsolute, isAbsolute, hpath, List.head?_append_of_ne_nil _ (by simp [h])]

/-- Behind a base, a step does not matter for how a path begins. -/
lemma isAbsolute_base_append {base step : String} (hbase : IsBase base) (hne : step ≠ "")
    (h : '/' ∉ step.toList) : isAbsolute (base ++ step) = isAbsolute base := by
  rw [isAbsolute, isAbsolute, String.toList_append]
  rcases hbase with rfl | ⟨before, hbefore⟩
  · cases hstep : step.toList with
    | nil => exact absurd (by simpa using hstep) hne
    | cons c cs =>
      rw [hstep, List.mem_cons, not_or] at h
      simp [Ne.symm h.1]
  · rw [List.head?_append_of_ne_nil _ (by simp [hbefore])]

/-! ## Extensions -/

/-- A name has no extension, or goes on from its stem with a dot and no further one. -/
lemma stem_cases (name : String) :
    stem name = name ∨ stem name ≠ "" ∧
      ∃ after, '.' ∉ after ∧ name.toList = (stem name).toList ++ '.' :: after := by
  cases hcs : name.toList.reverse.dropWhile (fun c => c != '.') with
  | nil => exact Or.inl (by simp [stem, hcs])
  | cons c before =>
    have hc : c = '.' := by
      have hdot := List.head?_dropWhile_not (fun c => c != '.') name.toList.reverse
      rw [hcs] at hdot
      simpa using hdot
    by_cases hbefore : before = []
    · exact Or.inl (by simp [stem, hcs, hbefore])
    · have hstem : stem name = String.ofList before.reverse := by
        simp [stem, hcs, hbefore]
      refine Or.inr ⟨by simp [hstem, hbefore],
        (name.toList.reverse.takeWhile fun c => c != '.').reverse, fun h => ?_, ?_⟩
      · simpa using List.mem_takeWhile_imp (List.mem_reverse.1 h)
      · have hname := List.takeWhile_append_dropWhile (p := fun c => c != '.')
          (l := name.toList.reverse)
        rw [hcs, hc] at hname
        have hreverse := congrArg List.reverse hname
        rw [List.reverse_append, List.reverse_cons, List.reverse_reverse, List.append_assoc,
          List.singleton_append] at hreverse
        rw [hstem, String.toList_ofList, hreverse]

/-- A name that is not empty has a stem that is not. -/
lemma stem_ne_empty {name : String} (h : name ≠ "") : stem name ≠ "" := by
  rcases stem_cases name with hstem | ⟨hstem, -⟩
  · rwa [hstem]
  · exact hstem

/-- There is no slash in the stem of a name without one. -/
lemma slash_notMem_stem {name : String} (h : '/' ∉ name.toList) : '/' ∉ (stem name).toList := by
  rcases stem_cases name with hstem | ⟨-, after, -, hname⟩
  · rwa [hstem]
  · rw [hname] at h
    exact fun hmem => h (List.mem_append_left _ hmem)

/-- An extension with a dot in it makes another name of every name. -/
lemma stem_append_ne {name extension : String} (h : '.' ∈ extension.toList) :
    stem name ++ "." ++ extension ≠ name := by
  intro heq
  have hlist := congrArg String.toList heq
  rw [String.toList_append, String.toList_append, List.append_assoc] at hlist
  rcases stem_cases name with hstem | ⟨-, after, hafter, hname⟩
  · rw [hstem] at hlist
    simp at hlist
  · rw [hname] at hlist
    have htail : extension.toList = after := by simpa using hlist
    exact hafter (htail ▸ h)

/-- A name with a long extension is no dots. -/
lemma isDots_stem_append {name extension : String} (hname : name ≠ "")
    (h : '.' ∈ extension.toList) : isDots (stem name ++ "." ++ extension) = false := by
  have hstem : 0 < (stem name).length := by
    rw [Nat.pos_iff_ne_zero, ne_eq, String.length_eq_zero_iff]
    exact stem_ne_empty hname
  have hextension : 0 < extension.length := by
    rw [← String.length_toList]
    exact List.length_pos_of_mem h
  have hlength : 2 < (stem name ++ "." ++ extension).length := by
    rw [String.length_append, String.length_append, show ".".length = 1 from rfl]
    omega
  rw [isDots, Bool.or_eq_false_iff, beq_eq_false_iff_ne, beq_eq_false_iff_ne]
  constructor <;> intro heq <;> rw [heq] at hlength <;> revert hlength <;> decide

/-! ## Beside each other -/

/-- Two paths lead to two names in one directory, the first perhaps with dots at its end. -/
def Beside (path path' : String) : Prop :=
  isAbsolute path' = isAbsolute path ∧ ∃ (before : List String) (name name' : String) (n : Nat),
    isDots name = false ∧ isDots name' = false ∧ name ≠ name' ∧
      steps path = before ++ name :: List.replicate n "." ∧ steps path' = before ++ [name']

/-- A path whose last step is dots does not end in a name. -/
lemma endsInName_of_steps {path : String} {before : List String} {step : String} {n : Nat}
    (h : steps path = before ++ step :: List.replicate n ".") (hstep : isDots step = true) :
    endsInName path = false := by
  cases n with
  | zero => simp [endsInName, h, hstep]
  | succ n =>
    rw [List.replicate_succ', ← List.cons_append, ← List.append_assoc] at h
    rw [endsInName, h, List.getLast?_concat]
    rfl

/-- A path without a step does not end in a name. -/
lemma endsInName_of_replicate {path : String} {n : Nat} (h : steps path = List.replicate n ".") :
    endsInName path = false := by
  cases n with
  | zero => simp [endsInName, h]
  | succ n =>
    rw [List.replicate_succ, ← List.nil_append ("." :: _)] at h
    exact endsInName_of_steps h rfl

/-- A path without a name does not end in one. -/
lemma endsInName_of_nameless {path : String} (h : name? path = none) : endsInName path = false := by
  obtain ⟨n, hn⟩ := steps_eq_splitLast path
  by_cases hempty : (splitLast path).2 = ""
  · rw [hempty, splitLast_fst_eq_empty hempty, show steps ("" ++ "") = [] from rfl,
      List.nil_append] at hn
    exact endsInName_of_replicate hn
  · have hdots : isDots (splitLast path).2 = true := by
      by_contra hdots
      simp [name?, hempty, hdots] at h
    rw [steps_base_append (isBase_splitLast path),
      steps_of_notMem hempty (slash_notMem_splitLast path), List.append_assoc,
      List.singleton_append] at hn
    exact endsInName_of_steps hn hdots

/-- A path with a name leads to that name from its base, perhaps with dots at its end. -/
lemma steps_of_name {path name : String} (h : name? path = some name) :
    (name ≠ "" ∧ '/' ∉ name.toList ∧ isDots name = false) ∧
      isAbsolute path = isAbsolute (splitLast path).1 ∧
      ∃ n, steps path = steps (splitLast path).1 ++ name :: List.replicate n "." := by
  have hslash := slash_notMem_splitLast path
  have hbase := isBase_splitLast path
  by_cases hempty : (splitLast path).2 = ""
  · simp [name?, hempty] at h
  by_cases hdots : isDots (splitLast path).2 = true
  · simp [name?, hdots] at h
  · have hname : (splitLast path).2 = name := by simpa [name?, hempty, hdots] using h
    obtain ⟨n, hn⟩ := steps_eq_splitLast path
    rw [steps_base_append hbase, steps_of_notMem hempty hslash, List.append_assoc,
      List.singleton_append, hname] at hn
    refine ⟨?_, ?_, n, hn⟩
    · rw [← hname]
      exact ⟨hempty, hslash, Bool.eq_false_iff.2 hdots⟩
    · rw [isAbsolute_splitLast hempty, isAbsolute_base_append hbase hempty hslash]

/-- **A path with another extension**, in which there is a dot, leads to another name in the same
directory, or else does not end in a name. -/
theorem withExtension_cases (path : String) {extension : String}
    (hslash : '/' ∉ extension.toList) (hdot : '.' ∈ extension.toList) :
    endsInName (withExtension path extension) = false ∨
      Beside path (withExtension path extension) := by
  have hbase := isBase_splitLast path
  cases hname : name? path with
  | none =>
    rw [withExtension, hname]
    exact Or.inl (endsInName_of_nameless hname)
  | some name =>
    obtain ⟨⟨hempty, hnameslash, hdots⟩, habsolute, n, hn⟩ := steps_of_name hname
    rw [withExtension, hname]
    simp only
    split
    · -- the stem of one dot goes with the extension, and two dots are left
      have hsteps : steps ((splitLast path).1 ++ "..") =
          steps (splitLast path).1 ++ ".." :: List.replicate 0 "." := by
        rw [steps_base_append hbase, show steps ".." = [".."] from by decide, List.replicate_zero]
      exact Or.inl (endsInName_of_steps hsteps rfl)
    · have hpath : (splitLast path).1 ++ stem name ++ "." ++ extension =
          (splitLast path).1 ++ (stem name ++ "." ++ extension) := by
        simp only [String.append_assoc]
      have hne : stem name ++ "." ++ extension ≠ "" := by simp
      have hnotMem : '/' ∉ (stem name ++ "." ++ extension).toList := by
        simp [slash_notMem_stem hnameslash, hslash]
      rw [hpath]
      refine Or.inr ⟨?_, steps (splitLast path).1, name, stem name ++ "." ++ extension, n, hdots,
        isDots_stem_append hempty hdot, (stem_append_ne hdot).symm, hn, ?_⟩
      · rw [habsolute, isAbsolute_base_append hbase hne hnotMem]
      · rw [steps_base_append hbase, steps_of_notMem hne hnotMem]

/-- The letters behind two dots are an extension, and the two dots are no name without them. -/
example : withExtension "a/..json" "json.tmp" = "a/.." := by decide

end Path

end InFlight
