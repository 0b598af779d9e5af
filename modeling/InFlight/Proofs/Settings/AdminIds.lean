import Mathlib.Data.List.Forall2
import Mathlib.Data.List.ReduceOption
import InFlight.Admins
import InFlight.Proofs.Audit.Administrators
import InFlight.Proofs.Json.Integers
import InFlight.Proofs.Text.Decimal
import InFlight.Proofs.Text.Parts
import InFlight.Settings.Overrides

/-!
# Lists of account numbers

A list of account numbers is read from the parts between the commas of a text.  A part that is blank
stands for nothing, one that writes a 64-bit integer between blanks stands for that integer, and no
other part is read.  The first part that is not read is reported, and otherwise the list consists of
what the parts stand for, in their order.

## Main definitions

* `InFlight.Settings.IdPart` — what a part stands for.
* `InFlight.Settings.FirstBad` — the first part that stands for nothing at all.

## Main results

* `InFlight.Settings.readPart_eq_ok_iff`, `InFlight.Settings.readPart_eq_error_iff` — one part.
* `InFlight.Settings.idList_exact` — the whole list, and the administrators that it makes.

## Design

The texts are described from the side of those who write them (`Text.Parted`, `Text.Trims`,
`Decimal.Writes`), so the same relation tells what is read and what may be written.  Reading part
by part and dropping what stands for nothing afterwards is the same as dropping blank parts first,
since blank parts are never reported.
-/

set_option relaxedAutoImplicit false
set_option autoImplicit false

namespace InFlight

namespace Settings

/-! ## One part -/

/-- What a part stands for: nothing if it is blank, and the 64-bit integer that it writes between
blanks. -/
inductive IdPart : List Char → Option OwnerId → Prop where
  | blank {part : List Char} (hblank : ∀ c ∈ part, Text.isBlank c = true) : IdPart part none
  | number {before digits after : List Char} {i : OwnerId}
    (hbefore : ∀ c ∈ before, Text.isBlank c = true) (hafter : ∀ c ∈ after, Text.isBlank c = true)
    (hwrites : Decimal.Writes digits i) (hlow : Decimal.int64Min ≤ i)
    (hhigh : i ≤ Decimal.int64Max) : IdPart (before ++ digits ++ after) (some i)

/-- The first of some parts that is neither blank nor a number, without the blanks around it. -/
def FirstBad (parts : List (List Char)) (core : List Char) : Prop :=
  ∃ before bad after, parts = before ++ bad :: after ∧ (∀ part ∈ before, ∃ v, IdPart part v) ∧
    (∀ v, ¬ IdPart bad v) ∧ Text.Trims bad core

/-- What is read from a part. -/
def readPart (part : List Char) : Except Error (Option OwnerId) :=
  if Text.trimList part = [] then .ok none
  else (adminId (String.ofList (Text.trimList part))).map some

variable {part core : List Char} {i : OwnerId} {v : Option OwnerId}

/-- A digit is no blank and no comma. -/
lemma isBlank_of_isDigit {c : Char} (h : Decimal.isDigit c = true) :
    Text.isBlank c = false ∧ c ≠ ',' := by
  have hmem := Decimal.mem_of_isDigit h
  simp only [List.mem_cons, List.not_mem_nil, or_false] at hmem
  rcases hmem with rfl | rfl | rfl | rfl | rfl | rfl | rfl | rfl | rfl | rfl <;> decide

/-- A numeral has neither blanks nor commas in it. -/
lemma writes_chars {digits : List Char} (h : Decimal.Writes digits i) :
    digits ≠ [] ∧ ∀ c ∈ digits, Text.isBlank c = false ∧ c ≠ ',' := by
  cases h with
  | unsigned hne hdigits => exact ⟨hne, fun c hc => isBlank_of_isDigit (hdigits c hc)⟩
  | plus _ hdigits =>
    refine ⟨by simp, List.forall_mem_cons.2 ⟨by decide, fun c hc => ?_⟩⟩
    exact isBlank_of_isDigit (hdigits c hc)
  | minus _ hdigits =>
    refine ⟨by simp, List.forall_mem_cons.2 ⟨by decide, fun c hc => ?_⟩⟩
    exact isBlank_of_isDigit (hdigits c hc)

/-- A part stands for an integer exactly if its core writes it. -/
lemma idPart_some_iff : IdPart part (some i) ↔
    Decimal.Writes (Text.trimList part) i ∧ Decimal.int64Min ≤ i ∧ i ≤ Decimal.int64Max := by
  constructor
  · intro h
    cases h with
    | @number before digits after _ hbefore hafter hwrites hlow hhigh =>
      obtain ⟨-, hchars⟩ := writes_chars hwrites
      have hcore : Text.trimList (before ++ digits ++ after) = digits :=
        Text.trims_iff.1 ⟨⟨before, after, rfl, hbefore, hafter⟩,
          fun c hc => (hchars c (List.mem_of_head? hc)).1,
          fun c hc => (hchars c (List.mem_of_getLast? hc)).1⟩
      rw [hcore]
      exact ⟨hwrites, hlow, hhigh⟩
  · rintro ⟨hwrites, hlow, hhigh⟩
    obtain ⟨⟨before, after, hpart, hbefore, hafter⟩, -, -⟩ := Text.trims_trimList part
    rw [hpart]
    exact .number hbefore hafter hwrites hlow hhigh

/-- A part without a number is blank. -/
lemma idPart_none_iff : IdPart part none ↔ Text.trimList part = [] := by
  rw [Text.trimList_eq_nil_iff]
  refine ⟨fun h => ?_, .blank⟩
  cases h with
  | blank hblank => exact hblank

/-- What is read from a part is what it stands for. -/
theorem readPart_eq_ok_iff : readPart part = .ok v ↔ IdPart part v := by
  unfold readPart
  cases v with
  | none =>
    rw [idPart_none_iff]
    split_ifs with hnil
    · simp [hnil]
    · cases adminId (String.ofList (Text.trimList part)) <;> simp [Except.map, hnil]
  | some i =>
    rw [idPart_some_iff]
    split_ifs with hnil
    · rw [hnil]
      constructor
      · intro h
        cases h
      · rintro ⟨hwrites, -⟩
        exact absurd rfl (writes_chars hwrites).1
    · have hread : Decimal.int64? (String.ofList (Text.trimList part)) = some i ↔ _ :=
        Decimal.int64?_eq_some_iff
      rw [String.toList_ofList] at hread
      rw [← hread, adminId]
      cases Decimal.int64? (String.ofList (Text.trimList part)) <;> simp [Except.map]

/-- A part is reported exactly if it stands for nothing, and what is reported is its core. -/
theorem readPart_eq_error_iff {e : Error} : readPart part = .error e ↔
    (∀ v, ¬ IdPart part v) ∧ ∃ core, Text.Trims part core ∧
      e = .invalidSettings (.invalidAdminId (String.ofList core)) := by
  simp only [← readPart_eq_ok_iff, Text.trims_iff, exists_eq_left']
  unfold readPart
  split_ifs with hnil
  · simp
  · unfold adminId
    cases Decimal.int64? (String.ofList (Text.trimList part)) with
    | some i => simp [Except.map]
    | none => simp [Except.map, eq_comm]

/-- A part stands for one thing only. -/
lemma IdPart.eq_iff {v' : Option OwnerId} (h : IdPart part v) : IdPart part v' ↔ v' = v := by
  rw [← readPart_eq_ok_iff, readPart_eq_ok_iff.2 h, Except.ok.injEq, eq_comm]

/-- There are no commas in a part. -/
lemma IdPart.comma_notMem (h : IdPart part v) : ',' ∉ part := by
  have hblank : ∀ cs : List Char, (∀ c ∈ cs, Text.isBlank c = true) → ',' ∉ cs := by
    intro cs hcs hmem
    exact absurd (hcs ',' hmem) (by decide)
  cases h with
  | blank hpart => exact hblank part hpart
  | @number before digits after _ hbefore hafter hwrites =>
    have hdigits : ',' ∉ digits := fun hmem => ((writes_chars hwrites).2 ',' hmem).2 rfl
    simp only [List.mem_append, not_or]
    exact ⟨⟨hblank before hbefore, hdigits⟩, hblank after hafter⟩

/-- Each of some parts stands for something if all of them do. -/
lemma exists_values_iff {parts : List (List Char)} :
    (∃ values, List.Forall₂ IdPart parts values) ↔ ∀ part ∈ parts, ∃ v, IdPart part v := by
  induction parts with
  | nil => simp
  | cons part parts ih =>
    rw [List.forall_mem_cons, ← ih]
    simp only [List.forall₂_cons_left_iff]
    constructor
    · rintro ⟨-, v, values, hv, hvalues, -⟩
      exact ⟨⟨v, hv⟩, values, hvalues⟩
    · rintro ⟨⟨v, hv⟩, values, hvalues⟩
      exact ⟨v :: values, v, values, hv, hvalues, rfl⟩

/-! ## One after another -/

section Traversal

variable {α β ε : Type} {f : α → Except ε β} {xs : List α}

/-- All steps succeed exactly if each of them does. -/
lemma mapM_eq_ok_iff {ys : List β} :
    xs.mapM f = .ok ys ↔ List.Forall₂ (fun x y => f x = .ok y) xs ys := by
  induction xs generalizing ys with
  | nil => simp [pure, Except.pure, eq_comm]
  | cons x xs ih =>
    rw [List.mapM_cons, List.forall₂_cons_left_iff]
    simp only [← ih]
    cases f x with
    | error e => simp [Bind.bind, Except.bind]
    | ok y => cases xs.mapM f <;> simp [Bind.bind, Except.bind, pure, Except.pure, eq_comm]

/-- The first element at which something goes wrong is the one that is reported. -/
lemma mapM_eq_error_iff {e : ε} :
    xs.mapM f = .error e ↔ ∃ before x after, xs = before ++ x :: after ∧
      (∀ b ∈ before, ∃ y, f b = .ok y) ∧ f x = .error e := by
  induction xs with
  | nil => simp [pure, Except.pure]
  | cons x xs ih =>
    rw [List.mapM_cons]
    constructor
    · intro h
      cases hx : f x with
      | error e' =>
        simp only [hx, Bind.bind, Except.bind, Except.error.injEq] at h
        exact ⟨[], x, xs, rfl, by simp, h ▸ hx⟩
      | ok y =>
        have hrest : xs.mapM f = .error e := by
          cases hxs : xs.mapM f <;> simp_all [Bind.bind, Except.bind, pure, Except.pure]
        obtain ⟨before, bad, after, rfl, hbefore, hbad⟩ := ih.1 hrest
        exact ⟨x :: before, bad, after, rfl, List.forall_mem_cons.2 ⟨⟨y, hx⟩, hbefore⟩, hbad⟩
    · rintro ⟨before, bad, after, hxs, hbefore, hbad⟩
      cases before with
      | nil =>
        obtain ⟨rfl, rfl⟩ := List.cons.inj hxs
        simp [hbad, Bind.bind, Except.bind]
      | cons b before =>
        obtain ⟨rfl, rfl⟩ : x = b ∧ xs = before ++ bad :: after := by simpa using hxs
        obtain ⟨⟨y, hy⟩, hbefore⟩ := List.forall_mem_cons.1 hbefore
        have hrest := ih.2 ⟨before, bad, after, rfl, hbefore, hbad⟩
        simp only [hy, hrest, Bind.bind, Except.bind]

end Traversal

/-! ## The list -/

variable {raw : String} {parts : List (List Char)} {ids : List OwnerId}

/-- To drop blank parts first is to drop afterwards what stands for nothing. -/
lemma mapM_adminId_eq (parts : List (List Char)) :
    (((parts.map String.ofList).map Text.trim).filter fun part => !part.isEmpty).mapM adminId =
      (parts.mapM readPart).map List.reduceOption := by
  induction parts with
  | nil => rfl
  | cons part parts ih =>
    have htrim : Text.trim (String.ofList part) = String.ofList (Text.trimList part) := by
      rw [Text.trim, String.toList_ofList]
    rw [List.map_cons, List.map_cons, List.filter_cons, htrim, List.mapM_cons, readPart]
    by_cases hnil : Text.trimList part = []
    · have hempty : (String.ofList (Text.trimList part)).isEmpty = true := by
        rw [hnil]
        rfl
      simp only [hempty, if_pos hnil, Bool.not_true, Bool.false_eq_true, if_false, ih]
      cases parts.mapM readPart <;> rfl
    · have hempty : (String.ofList (Text.trimList part)).isEmpty = false := by simp [hnil]
      simp only [hempty, if_neg hnil, Bool.not_false, if_true, List.mapM_cons, ih]
      cases adminId (String.ofList (Text.trimList part)) with
      | error e => rfl
      | ok id => cases parts.mapM readPart <;> rfl

/-- A list is read part by part, and blank parts are dropped. -/
lemma idList_eq (h : Text.Parted ',' raw.toList parts) :
    idList raw = (parts.mapM readPart).map List.reduceOption := by
  rw [← Text.parted_iff.1 h, ← mapM_adminId_eq]
  rfl

/-- The list is read if every part stands for something. -/
lemma idList_eq_ok_iff (h : Text.Parted ',' raw.toList parts) :
    idList raw = .ok ids ↔
      ∃ values, List.Forall₂ IdPart parts values ∧ values.reduceOption = ids := by
  have hparts : ∀ values, parts.mapM readPart = .ok values ↔ List.Forall₂ IdPart parts values := by
    intro values
    simp only [mapM_eq_ok_iff, readPart_eq_ok_iff]
  simp only [idList_eq h, ← hparts]
  cases parts.mapM readPart <;> simp [Except.map]

/-- What is reported is the first part that stands for nothing. -/
lemma idList_eq_error_iff (h : Text.Parted ',' raw.toList parts) {e : Error} :
    idList raw = .error e ↔ ∃ core, FirstBad parts core ∧
      e = .invalidSettings (.invalidAdminId (String.ofList core)) := by
  have hparts : parts.mapM readPart = .error e ↔ ∃ core, FirstBad parts core ∧
      e = .invalidSettings (.invalidAdminId (String.ofList core)) := by
    rw [mapM_eq_error_iff]
    simp only [readPart_eq_ok_iff, readPart_eq_error_iff]
    constructor
    · rintro ⟨before, bad, after, hp, hbefore, hbad, core, hcore, he⟩
      exact ⟨core, ⟨before, bad, after, hp, hbefore, hbad, hcore⟩, he⟩
    · rintro ⟨core, ⟨before, bad, after, hp, hbefore, hbad, hcore⟩, he⟩
      exact ⟨before, bad, after, hp, hbefore, hbad, core, hcore, he⟩
  rw [idList_eq h, ← hparts]
  cases parts.mapM readPart <;> simp [Except.map]

/-- A list as it may be written: any parts that stand for something, with commas between them. -/
lemma idList_intercalate {values : List (Option OwnerId)} (h : List.Forall₂ IdPart parts values) :
    idList (String.ofList ([','].intercalate parts)) = .ok values.reduceOption := by
  rcases eq_or_ne parts [] with rfl | hne
  · cases h
    rfl
  · have hcomma : ∀ part ∈ parts, ',' ∉ part := by
      intro part hpart
      obtain ⟨v, hv⟩ := exists_values_iff.1 ⟨values, h⟩ part hpart
      exact hv.comma_notMem
    have hparted : Text.Parted ',' (String.ofList ([','].intercalate parts)).toList parts :=
      ⟨hne, hcomma, by rw [String.toList_ofList]⟩
    exact (idList_eq_ok_iff hparted).2 ⟨values, h, rfl⟩

/-- The integers in a list are those that some part stands for. -/
lemma mem_reduceOption_iff {values : List (Option OwnerId)} (h : List.Forall₂ IdPart parts values)
    (x : OwnerId) : x ∈ values.reduceOption ↔ ∃ part ∈ parts, IdPart part (some x) := by
  rw [List.reduceOption_mem_iff]
  induction h with
  | nil => simp
  | cons hpart _ ih => simp [ih, hpart.eq_iff]

/-- **Lists of account numbers are read exactly.** A text has its parts between commas in one way.
It is read if every part is blank or writes a 64-bit integer between blanks; the list then has these
integers in the order of the parts, as often as they are written.  Otherwise the first part that is
neither is reported, without the blanks around it.  The administrators of the list are the positive
integers that some part writes, and exactly these accounts are left out of every sweep, which is
otherwise one through the remaining candidates.  Conversely, whichever parts that are blank or write
integers are put together with commas, the integers are read back.

**Proof sketch.** The list is the parts read one after another, without what blank parts stand for
(`idList_eq`).  So it is read if each part is, and otherwise the first failure is reported
(`mapM_eq_ok_iff`, `mapM_eq_error_iff`). -/
theorem idList_exact (raw : String) :
    (∃ parts, (∀ parts', Text.Parted ',' raw.toList parts' ↔ parts' = parts) ∧
      ((∃ ids, idList raw = .ok ids) ↔ ∀ part ∈ parts, ∃ v, IdPart part v) ∧
      (∀ ids, idList raw = .ok ids ↔
        ∃ values, List.Forall₂ IdPart parts values ∧ values.reduceOption = ids) ∧
      (∀ e, idList raw = .error e ↔
        ∃ core, FirstBad parts core ∧ e = .invalidSettings (.invalidAdminId (String.ofList core))) ∧
      ∀ ids, idList raw = .ok ids →
        (∀ x, (Admins.ofList ids).isAdmin x = true ↔
          0 < x ∧ ∃ part ∈ parts, IdPart part (some x)) ∧
        ∀ (registry : Registry) (store : Audit.Store) (settings : Audit.SweepSettings) (now : Int),
          let isAdmin := (Admins.ofList ids).isAdmin
          let rows := Audit.candidates registry settings now
          let others := Audit.sweepRows settings now (Audit.SweepState.start store)
            (rows.filter fun row => !isAdmin row.owner)
          Audit.sweepPlain isAdmin registry store settings now =
            (others.store,
              { others.report with
                candidates := rows.length
                skippedAdmins := rows.countP fun row => isAdmin row.owner })) ∧
    ∀ (parts : List (List Char)) (values : List (Option OwnerId)),
      List.Forall₂ IdPart parts values →
        idList (String.ofList ([','].intercalate parts)) = .ok values.reduceOption := by
  have hparted : Text.Parted ',' raw.toList (Text.splitList ',' raw.toList) := Text.parted_iff.2 rfl
  have hok : ∀ ids, idList raw = .ok ids ↔ _ := fun ids => idList_eq_ok_iff hparted
  refine ⟨⟨Text.splitList ',' raw.toList, fun parts' => Text.parted_iff.trans eq_comm, ?_, hok,
    fun e => idList_eq_error_iff hparted, fun ids hids => ⟨fun x => ?_,
      fun registry store settings now => Audit.sweepPlain_eq _ registry store settings now⟩⟩,
    fun parts values => idList_intercalate⟩
  · rw [← exists_values_iff]
    constructor
    · rintro ⟨ids, hids⟩
      obtain ⟨values, hvalues, -⟩ := (hok ids).1 hids
      exact ⟨values, hvalues⟩
    · rintro ⟨values, hvalues⟩
      exact ⟨_, (hok _).2 ⟨values, hvalues, rfl⟩⟩
  · obtain ⟨values, hvalues, rfl⟩ := (hok ids).1 hids
    rw [Admins.isAdmin_ofList, mem_reduceOption_iff hvalues, and_comm]

example : idList "\t7,,+07 ,-3," = .ok [7, 7, -3] ∧
    idList "7, 8 9 ,x" = .error (.invalidSettings (.invalidAdminId "8 9")) := by
  decide +kernel

end Settings

end InFlight
