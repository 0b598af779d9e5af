import Mathlib.Data.List.Nodup
import Mathlib.Tactic.Lemma
import InFlight.Json.Fields
import InFlight.Proofs.Json.Grammar

/-!
# Typed data in written values

What the readers of typed data make of a value that some text writes: a datum where the value is
written as that datum, and nothing where it is not.  Of a record, they see what it gives to each of
its known fields, which is nothing or one value; a record is at fault that gives a known field
twice, or a value that the field cannot have.

## Main definitions

* `InFlight.Json.ReadsAs` — a reader gives exactly the data of some form.
* `InFlight.Json.IsRecord`, `InFlight.Json.valuesOf` — a record and what it gives to a field.
* `InFlight.Json.Gives` — what is given to a field, if anything.
* `InFlight.Json.FaultyRecord` — a record at fault.

## Main results

* `InFlight.Json.readsAs_int?`, `InFlight.Json.readsAs_nat?`, `InFlight.Json.readsAs_bool?`,
  `InFlight.Json.readsAs_text?`, `InFlight.Json.readsAs_listOf?` — the readers of single values.
* `InFlight.Json.exists_fields` — the fields of a record that gives each of them once at most.
* `InFlight.Json.exists_fault` — what is wrong with a record at fault, if it has fields at all.
* `InFlight.Json.exists_gives` — what a record gives that is not at fault.

## Design

A record may be an object or an array.  `namedParts` treats both in one way, as members whose keys
may be missing; the items of an array have the names of the fields at their places.
-/

set_option relaxedAutoImplicit false
set_option autoImplicit false

namespace InFlight

namespace Json

/-! ## Integers -/

/-- The whole part of a number has the digits of the number that it writes. -/
lemma WholePart.toDigits_value {cs : List Char} (h : WholePart cs) :
    Nat.toDigits 10 (Decimal.value cs) = cs := by
  by_cases hzero : cs.head? = some '0'
  · rw [h.zero hzero]
    rfl
  · obtain ⟨c, cs, rfl⟩ := List.exists_cons_of_ne_nil h.ne_nil
    exact Decimal.toDigits_value (fun hc => hzero (by rw [hc, List.head?_cons])) h.isDigit

/-- A number that can be written is read as an integer exactly if it is written as that one. -/
lemma Number.WellFormed.int?_eq_some_iff {n : Number} (h : n.WellFormed) {low high i : Int} :
    n.int? low high = some i ↔ n = .ofInt i ∧ low ≤ i ∧ i ≤ high := by
  constructor
  · intro hint
    obtain ⟨negative, digits, tail⟩ := n
    have hdigits : Nat.toDigits 10 (Decimal.value digits) = digits := h.whole.toDigits_value
    obtain rfl : tail = [] := by
      cases tail with
      | nil => rfl
      | cons c tail => cases hint
    cases hm : Decimal.natUpTo? (max low.natAbs high.natAbs) digits with
    | none => simp [int?, hm] at hint
    | some m =>
      obtain ⟨-, -, -, rfl⟩ := (Decimal.natUpTo?_eq_some_iff _ _ _).1 hm
      cases negative with
      | false =>
        simp only [int?, List.isEmpty_nil, if_true, hm, Bool.false_eq_true, false_and, if_false,
          Option.ite_none_right_eq_some, Option.some.injEq] at hint
        obtain ⟨hrange, rfl⟩ := hint
        exact ⟨by simp [ofInt, hdigits], hrange⟩
      | true =>
        simp only [int?, List.isEmpty_nil, if_true, hm, true_and, Option.ite_none_left_eq_some,
          Option.ite_none_right_eq_some, Option.some.injEq] at hint
        obtain ⟨hzero, hrange, rfl⟩ := hint
        have hpos : 0 < Decimal.value digits := Nat.pos_of_ne_zero hzero
        exact ⟨by simp [ofInt, hdigits, hpos], hrange⟩
  · rintro ⟨rfl, hlow, hhigh⟩
    exact Number.int?_ofInt hlow hhigh

/-! ## Single values -/

/-- On the values that some text writes, a reader gives exactly the data of some form. -/
def ReadsAs {α : Type} (read : Json → Option α) (form : α → Json → Prop) : Prop :=
  ∀ v, Written v → ∀ a, read v = some a ↔ form a v

/-- An integer between `low` and `high`. -/
def IsInt (low high i : Int) (v : Json) : Prop := v = .int i ∧ low ≤ i ∧ i ≤ high

/-- A 64-bit signed integer. -/
def IsInt64 (i : Int) (v : Json) : Prop := IsInt Decimal.int64Min Decimal.int64Max i v

/-- A natural number of at most `bound`. -/
def IsNat (bound n : Nat) (v : Json) : Prop := v = .nat n ∧ n ≤ bound

/-- A truth value. -/
def IsBool (b : Bool) (v : Json) : Prop := v = .bool b

/-- A string with a text. -/
def IsText (s : String) (v : Json) : Prop := v = .text s

/-- An array of data of some form. -/
def IsListOf {α : Type} (form : α → Json → Prop) (as : List α) (v : Json) : Prop :=
  ∃ items, v = .array items ∧ List.Forall₂ form as items

/-- Integers within bounds are read as such. -/
lemma readsAs_int? (low high : Int) : ReadsAs (int? low high) (IsInt low high) := by
  intro v hv i
  cases v with
  | number n =>
    rw [int?, hv.wellFormed.int?_eq_some_iff, IsInt, int, Json.number.injEq]
  | _ => simp [int?, IsInt, int]

/-- Signed 64-bit integers are read as such. -/
lemma readsAs_int64? : ReadsAs int64? IsInt64 := readsAs_int? _ _

/-- Natural numbers up to a bound are read as such. -/
lemma readsAs_nat? (bound : Nat) : ReadsAs (nat? bound) (IsNat bound) := by
  intro v hv n
  rw [nat?, Option.map_eq_some_iff]
  constructor
  · rintro ⟨i, hi, rfl⟩
    obtain ⟨rfl, hlow, hhigh⟩ := (readsAs_int? 0 bound v hv i).1 hi
    refine ⟨?_, by omega⟩
    rw [nat, Int.toNat_of_nonneg hlow]
  · rintro ⟨rfl, hn⟩
    exact ⟨n, int?_int (Int.natCast_nonneg n) (Int.ofNat_le.2 hn), Int.toNat_natCast n⟩

/-- Natural numbers of 64 bits are read as such. -/
lemma readsAs_word64? : ReadsAs word64? (IsNat Decimal.word64Max) := readsAs_nat? _

/-- Truth values are read as such. -/
lemma readsAs_bool? : ReadsAs bool? IsBool := by
  intro v _ b
  cases v with
  | bool b' => simp [bool?, IsBool]
  | _ => simp [bool?, IsBool]

/-- Texts are read as such. -/
lemma readsAs_text? : ReadsAs text? IsText := by
  intro v _ s
  cases v with
  | string s' => simp [text?, IsText, text]
  | _ => simp [text?, IsText, text]

/-- An array is read item by item. -/
lemma readsAs_listOf? {α : Type} {read : Json → Option α} {form : α → Json → Prop}
    (h : ReadsAs read form) : ReadsAs (listOf? read) (IsListOf form) := by
  intro v hv as
  cases v with
  | array items =>
    have hitems := hv.items
    have hlist : items.mapM read = some as ↔ List.Forall₂ form as items := by
      clear hv
      induction items generalizing as with
      | nil => cases as <;> simp
      | cons u items ih =>
        rw [List.forall_mem_cons] at hitems
        rw [List.mapM_cons]
        cases as with
        | nil => simp [Option.bind_eq_some_iff]
        | cons a as =>
          rw [List.forall₂_cons, ← ih as hitems.2, ← h u hitems.1]
          simp [Option.bind_eq_some_iff]
    simp [listOf?, hlist, IsListOf]
  | _ => simp [listOf?, IsListOf]

/-! ## Records -/

/-- The parts of a record: the members of an object, or the items of an array with the names of the
fields at their places. -/
def namedParts (names : List String) : Json → List (Option String × Json)
  | .object members => members
  | .array items => (names.map some).zip items
  | _ => []

/-- What a record gives to a field, in order. -/
def valuesOf (names : List String) (name : String) (v : Json) : List Json :=
  ((v.namedParts names).filter fun m => m.1 == some name).map Prod.snd

/-- An object whose keys have a text, or an array that does not go on behind the last field. -/
def IsRecord (names : List String) : Json → Prop
  | .object members => ∀ m ∈ members, m.1.isSome
  | .array items => items.length ≤ names.length
  | _ => False

/-- What is given to a field: nothing, or one value of some form. -/
inductive Gives {α : Type} (form : α → Json → Prop) : List Json → Option α → Prop where
  | absent : Gives form [] none
  | present {a : α} {v : Json} (h : form a v) : Gives form [v] (some a)

/-- A value of no datum of some form. -/
def NotA {α : Type} (form : α → Json → Prop) (v : Json) : Prop := ∀ a, ¬form a v

/-- A record at fault, where `faults` says of every field which values it cannot have: it is no
record, or it gives a field more than once, or a value that the field cannot have. -/
inductive FaultyRecord (faults : List (String × (Json → Prop))) (v : Json) : Prop where
  | noRecord (h : ¬v.IsRecord (faults.map Prod.fst))
  | repeated {name : String} {bad : Json → Prop} (hfield : (name, bad) ∈ faults)
    (h : 2 ≤ (v.valuesOf (faults.map Prod.fst) name).length)
  | unsuitable {name : String} {bad : Json → Prop} {u : Json} (hfield : (name, bad) ∈ faults)
    (hu : u ∈ v.valuesOf (faults.map Prod.fst) name) (h : bad u)

section Records

variable {names : List String} {v : Json} {fs : Fields}

/-- The values of the fields of a written record are written. -/
lemma Written.of_mem_valuesOf (hv : Written v) {name : String} {u : Json}
    (hu : u ∈ v.valuesOf names name) : Written u := by
  obtain ⟨m, hm, rfl⟩ := List.mem_map.1 hu
  have hpart := (List.mem_filter.1 hm).1
  cases v with
  | object members => exact hv.members m hpart
  | array items => exact hv.items m.2 (List.of_mem_zip hpart).2
  | _ => exact absurd hpart List.not_mem_nil

/-- Keys with a text are read one by one. -/
lemma mapM_keys_eq_some_iff {members : List (Option String × Json)} {keyed : Fields} :
    members.mapM (fun m => m.1.map fun key => (key, m.2)) = some keyed ↔
      members = keyed.map fun m => (some m.1, m.2) := by
  induction members generalizing keyed with
  | nil => cases keyed <;> simp
  | cons m members ih =>
    obtain ⟨key, u⟩ := m
    cases key with
    | none => cases keyed <;> simp
    | some key =>
      cases keyed with
      | nil => simp [Option.bind_eq_some_iff]
      | cons m' keyed =>
        simp [Option.bind_eq_some_iff, ih, Prod.ext_iff, and_comm]

/-- What is found under a name that occurs once at most. -/
lemma toList_lookup {name : String} (h : (fs.filter fun m => m.1 == name).length ≤ 1) :
    (fs.lookup name).toList = (fs.filter fun m => m.1 == name).map Prod.snd := by
  induction fs with
  | nil => rfl
  | cons m fs ih =>
    by_cases hm : m.1 = name
    · subst hm
      have hfilter : (m :: fs).filter (fun m' => m'.1 == m.1) =
          m :: fs.filter fun m' => m'.1 == m.1 := List.filter_cons_of_pos (beq_self_eq_true m.1)
      rw [hfilter, List.length_cons] at h
      have hrest : fs.filter (fun m' => m'.1 == m.1) = [] := List.length_eq_zero_iff.1 (by omega)
      rw [hfilter, hrest, List.lookup_cons, beq_self_eq_true]
      rfl
    · rw [List.filter_cons_of_neg (by simpa using hm)] at h ⊢
      rw [List.lookup_cons, beq_eq_false_iff_ne.2 (Ne.symm hm), ← ih h]

/-- The values of a field among the parts of a record that all have a name. -/
lemma valuesOf_eq {keyed : Fields}
    (h : v.namedParts names = keyed.map fun m => (some m.1, m.2)) (name : String) :
    v.valuesOf names name = (keyed.filter fun m => m.1 == name).map Prod.snd := by
  rw [valuesOf, h, List.filter_map, List.map_map]
  rfl

@[simp] lemma isRecord_record (members : List (String × Json)) :
    (record members).IsRecord names := by
  intro m hm
  obtain ⟨m', -, rfl⟩ := List.mem_map.1 hm
  rfl

@[simp] lemma valuesOf_record (members : List (String × Json)) (name : String) :
    (record members).valuesOf names name = (members.filter fun m => m.1 == name).map Prod.snd :=
  valuesOf_eq rfl name

/-- The parts with a known name are all among the known parts. -/
lemma filter_known {name : String} (hname : name ∈ names) (keyed : Fields) :
    ((keyed.filter fun m => names.contains m.1).filter fun m => m.1 == name) =
      keyed.filter fun m => m.1 == name := by
  rw [List.filter_filter]
  refine List.filter_congr fun m _ => ?_
  by_cases hm : m.1 = name
  · subst hm
    simp [hname]
  · simp [hm]

/-- The members of an object whose keys have a text. -/
lemma exists_keyed {members : List (Option String × Json)} (h : ∀ m ∈ members, m.1.isSome) :
    ∃ keyed : Fields, members = keyed.map fun m => (some m.1, m.2) := by
  induction members with
  | nil => exact ⟨[], rfl⟩
  | cons m members ih =>
    obtain ⟨hm, hmembers⟩ := List.forall_mem_cons.1 h
    obtain ⟨key, hkey⟩ := Option.isSome_iff_exists.1 hm
    obtain ⟨keyed, rfl⟩ := ih hmembers
    refine ⟨(key, m.2) :: keyed, ?_⟩
    rw [List.map_cons, ← hkey]

/-- An array gives each field once at most. -/
lemma length_valuesOf_array (hnames : names.Nodup) (items : List Json) (name : String) :
    ((Json.array items).valuesOf names name).length ≤ 1 := by
  rw [valuesOf, List.length_map, namedParts, ← List.countP_eq_length_filter]
  induction names generalizing items with
  | nil => simp
  | cons name' names ih =>
    obtain ⟨hname', hnames⟩ := List.nodup_cons.1 hnames
    cases items with
    | nil => simp
    | cons u items =>
      rw [List.map_cons, List.zip_cons_cons, List.countP_cons]
      by_cases heq : name' = name
      · have hrest : ((names.map some).zip items).countP (fun m => m.1 == some name) = 0 := by
          refine List.countP_eq_zero.2 fun m hm hmname => hname' ?_
          obtain ⟨name'', hname'', hm'⟩ := List.mem_map.1 (List.of_mem_zip hm).1
          rw [← hm', beq_iff_eq, Option.some.injEq] at hmname
          rwa [heq, ← hmname]
        simp [hrest, heq]
      · simpa [heq] using ih hnames items

/-- A record has fields unless it gives one of them twice, and they are what it gives. -/
lemma exists_known (hnames : names.Nodup) (h : v.IsRecord names) :
    ∃ known : Fields,
      (v.fields? names =
        if ∀ name ∈ names, (v.valuesOf names name).length ≤ 1 then some known else none) ∧
      ∀ name ∈ names, (v.valuesOf names name).length ≤ 1 →
        (known.lookup name).toList = v.valuesOf names name := by
  cases v with
  | object members =>
    obtain ⟨keyed, hkeyed⟩ := exists_keyed h
    have hvalues := valuesOf_eq (show (Json.object members).namedParts names = _ from hkeyed)
    refine ⟨keyed.filter fun m => names.contains m.1, ?_, fun name hname honce => ?_⟩
    · have hcheck : (∀ name ∈ names, ((Json.object members).valuesOf names name).length ≤ 1) ↔
          ∀ name ∈ names, ((keyed.filter fun m => names.contains m.1).filter
            fun m => m.1 == name).length ≤ 1 := by
        refine forall₂_congr fun name hname => ?_
        rw [hvalues, List.length_map, filter_known hname]
      rw [fields?, mapM_keys_eq_some_iff.2 hkeyed]
      simp only [List.all_eq_true, decide_eq_true_eq, hcheck]
    · rw [hvalues, List.length_map, ← filter_known hname] at honce
      rw [toList_lookup honce, filter_known hname, hvalues]
  | array items =>
    have hkeyed : (Json.array items).namedParts names =
        (names.zip items).map fun m => (some m.1, m.2) := by
      rw [namedParts, List.zip_map_left]
      rfl
    have hvalues := valuesOf_eq hkeyed
    refine ⟨names.zip items, ?_, fun name _ honce => ?_⟩
    · rw [if_pos fun name _ => length_valuesOf_array hnames items name, fields?]
      exact if_pos h
    · rw [hvalues, List.length_map] at honce
      rw [toList_lookup honce, hvalues]
  | _ => exact h.elim

/-- What has fields is a record. -/
lemma isRecord_of_fields? (h : v.fields? names = some fs) : v.IsRecord names := by
  cases v with
  | object members =>
    rw [fields?] at h
    split at h
    · cases h
    · next keyed hkeyed =>
      rw [mapM_keys_eq_some_iff.1 hkeyed]
      intro m hm
      obtain ⟨m', -, rfl⟩ := List.mem_map.1 hm
      rfl
  | array items =>
    rw [fields?] at h
    split at h
    · assumption
    · cases h
  | _ => cases h

/-- **The fields of a record** that gives each of them once at most: they are what it gives. -/
theorem exists_fields (hnames : names.Nodup) (h : v.IsRecord names)
    (honce : ∀ name ∈ names, (v.valuesOf names name).length ≤ 1) :
    ∃ fs : Fields, v.fields? names = some fs ∧
      ∀ name ∈ names, (fs.lookup name).toList = v.valuesOf names name := by
  obtain ⟨known, hknown, hlookup⟩ := exists_known hnames h
  exact ⟨known, by rw [hknown, if_pos honce],
    fun name hname => hlookup name hname (honce name hname)⟩

/-- What the fields of a record are, if it has any. -/
lemma lookup_of_fields? (hnames : names.Nodup) (h : v.fields? names = some fs) {name : String}
    (hname : name ∈ names) : (fs.lookup name).toList = v.valuesOf names name := by
  obtain ⟨known, hknown, hlookup⟩ := exists_known hnames (isRecord_of_fields? h)
  rw [h] at hknown
  split at hknown
  · next honce =>
    cases hknown
    exact hlookup name hname (honce name hname)
  · cases hknown

end Records

/-! ## Fields -/

section Fields

variable {α β : Type} {form : α → Json → Prop} {read : Json → Option α} {d : Option α} {v : Json}
  {names : List String} {name : String} {fs : Fields} {faults : List (String × (Json → Prop))}
  {bad : Json → Prop}

/-- A field that gives something has at most one value. -/
lemma Gives.length_le {values : List Json} (h : Gives form values d) : values.length ≤ 1 := by
  cases h with
  | absent => exact Nat.zero_le 1
  | present _ => exact Nat.le_refl 1

/-- A field is what is made of the datum that is given to it, or its default. -/
lemma Gives.optional?_map (h : Gives form (v.valuesOf names name) d) (hv : Written v)
    (hfs : (fs.lookup name).toList = v.valuesOf names name) {make : Json → Option β} {f : α → β}
    (hmake : ∀ a u, Written u → form a u → make u = some (f a)) (default : β) :
    fs.optional? name default make = some ((d.map f).getD default) := by
  have hwritten : ∀ u ∈ v.valuesOf names name, Written u := fun u => hv.of_mem_valuesOf
  generalize v.valuesOf names name = values at h hfs hwritten
  unfold Fields.optional?
  cases h with
  | absent =>
    rw [Option.toList_eq_nil_iff.1 hfs]
    rfl
  | @present a u h =>
    rw [Option.toList_eq_singleton_iff.1 hfs]
    exact hmake a u (hwritten u List.mem_cons_self) h

/-- A field is the datum that is given to it, or its default. -/
lemma Gives.optional?_eq (h : Gives form (v.valuesOf names name) d) (hv : Written v)
    (hfs : (fs.lookup name).toList = v.valuesOf names name) (hread : ReadsAs read form)
    (default : α) : fs.optional? name default read = some (d.getD default) := by
  rw [h.optional?_map hv hfs (fun a u hu => (hread u hu a).2), Option.map_id']

/-- A field cannot be read if its value cannot. -/
lemma optional?_eq_none {u : Json} (hfs : fs.lookup name = some u) (hread : read u = none)
    (default : α) : fs.optional? name default read = none := by
  rw [Fields.optional?, hfs]
  exact hread

/-- **What is wrong with a record at fault**, if it has fields: one cannot have its value. -/
theorem exists_fault (hnames : faults.map Prod.fst = names) (hnodup : names.Nodup) (hv : Written v)
    (hfs : v.fields? names = some fs) (h : FaultyRecord faults v) :
    ∃ fault ∈ faults, ∃ u, fs.lookup fault.1 = some u ∧ Written u ∧ fault.2 u := by
  subst hnames
  cases h with
  | noRecord hrecord => exact absurd (isRecord_of_fields? hfs) hrecord
  | @repeated name bad hfield htwice =>
    have hlength : (fs.lookup name).toList.length ≤ 1 := Option.length_toList_le
    rw [lookup_of_fields? hnodup hfs (List.mem_map_of_mem hfield)] at hlength
    exact absurd htwice (Nat.not_le.2 (Nat.lt_succ_of_le hlength))
  | @unsuitable name bad u hfield hu hbad =>
    have hlookup := hu
    rw [← lookup_of_fields? hnodup hfs (List.mem_map_of_mem hfield), Option.mem_toList] at hlookup
    exact ⟨(name, bad), hfield, u, hlookup, hv.of_mem_valuesOf hu, hbad⟩

/-- A value that is not at fault is a record. -/
lemma isRecord_of_not_faulty (hnames : faults.map Prod.fst = names) (h : ¬FaultyRecord faults v) :
    v.IsRecord names := by
  subst hnames
  exact not_not.1 fun hrecord => h (.noRecord hrecord)

/-- **What a record gives that is not at fault**: to every field nothing, or one value. -/
theorem exists_gives (form : α → Json → Prop) (name : String)
    (hnames : faults.map Prod.fst = names) (h : ¬FaultyRecord faults v)
    (hfield : (name, bad) ∈ faults) (hbad : ∀ u, ¬bad u → ∃ a, form a u) :
    ∃ d, Gives form (v.valuesOf names name) d := by
  subst hnames
  have honce : (v.valuesOf (faults.map Prod.fst) name).length ≤ 1 :=
    Nat.le_of_lt_succ (Nat.not_le.1 fun htwice => h (.repeated hfield htwice))
  cases hvalues : v.valuesOf (faults.map Prod.fst) name with
  | nil => exact ⟨none, .absent⟩
  | cons u rest =>
    obtain rfl : rest = [] := by
      rw [hvalues, List.length_cons] at honce
      exact List.length_eq_zero_iff.1 (by omega)
    obtain ⟨a, ha⟩ := hbad u fun hu => h (.unsuitable hfield (hvalues ▸ List.mem_cons_self) hu)
    exact ⟨some a, .present ha⟩

/-- To a field that can have the data of some form, such a record gives nothing or one of them. -/
lemma exists_gives_of_notA (form : α → Json → Prop) (name : String)
    (hnames : faults.map Prod.fst = names) (h : ¬FaultyRecord faults v)
    (hfield : (name, NotA form) ∈ faults) : ∃ d, Gives form (v.valuesOf names name) d :=
  exists_gives form name hnames h hfield fun _ hu => not_forall_not.1 hu

/-- A written value that is none of a form is not read. -/
lemma ReadsAs.eq_none (h : ReadsAs read form) (hv : Written v) (hform : NotA form v) :
    read v = none :=
  Option.eq_none_iff_forall_ne_some.2 fun a ha => hform a ((h v hv a).1 ha)

end Fields

end Json

end InFlight
