import Mathlib.Data.List.Sort
import InFlight.Audit.Store

/-!
# What a history holds

A history kept in memory and one kept in a table are seen alike: as the records that they hold, in
the order in which they were appended, and the number of the last one.  Appending puts a record
behind the others under the next number.  Listing is a matter of the records alone, since the two
ways of sorting them agree when no number occurs twice.

## Main definitions

* `InFlight.Audit.Backend.records`, `InFlight.Audit.Backend.lastId` — the view of a backend.
* `InFlight.Audit.Backend.isOpen` — whether records can be appended.
* `InFlight.Audit.Backend.Numbered` — the numbers of the records ascend up to the last.
* `InFlight.Audit.listed` — the records that are listed, as a function of those that are held.

## Main results

* `InFlight.Audit.Backend.append_of_isOpen` — appending, seen through the view.
* `InFlight.Audit.Table.select_eq_listed` — listing the rows of a table.
* `InFlight.Audit.Backend.select_of_isOpen` — listing, seen through the view.
-/

set_option relaxedAutoImplicit false
set_option autoImplicit false

namespace InFlight

namespace Audit

/-! ## The view -/

namespace Backend

/-- The records that are held, in the order in which they were appended. -/
def records : Backend → List Record
  | .journal j => j.records.toList
  | .table (some t) => t.rows.toList.map Row.toRecord
  | .table none => []
  | .sealed t => t.rows.toList.map Row.toRecord

/-- The number of the last record. -/
def lastId : Backend → Int
  | .journal j => j.records.size
  | .table (some t) => t.lastId
  | .table none => 0
  | .sealed t => t.lastId

/-- Whether records can be appended. -/
def isOpen : Backend → Bool
  | .journal _ => true
  | .table t => t.isSome
  | .sealed _ => false

/-- The numbers of the records ascend, up to the number of the last. -/
structure Numbered (b : Backend) : Prop where
  ascending : (b.records.map Record.id).Pairwise (· < ·)
  le_lastId : ∀ r ∈ b.records, r.id ≤ b.lastId

end Backend

/-- The records that are listed: those that are asked for, newest first and no more than the
limit. -/
def listed (records : List Record) (q : Query) : List Record :=
  ((records.filter q.accepts).mergeSort newerFirst).take q.effectiveLimit.toNat

/-! ## The order of a listing -/

/-- The order of records by time and, at the same time, by number. -/
lemma newerFirst_iff {a b : Record} : newerFirst a b = true ↔
    b.createdAt < a.createdAt ∨ (b.createdAt = a.createdAt ∧ b.id ≤ a.id) := decide_eq_true_iff

/-- The order of records is transitive. -/
lemma newerFirst_trans (a b c : Record) (hab : newerFirst a b = true)
    (hbc : newerFirst b c = true) : newerFirst a c = true := by
  rw [newerFirst_iff] at *
  omega

/-- Of two records one comes first. -/
lemma newerFirst_total (a b : Record) : (newerFirst a b || newerFirst b a) = true := by
  rw [Bool.or_eq_true, newerFirst_iff, newerFirst_iff]
  omega

/-- Records that are listed before each other have the same number. -/
lemma id_eq_of_newerFirst {a b : Record} (hab : newerFirst a b = true)
    (hba : newerFirst b a = true) : a.id = b.id := by
  rw [newerFirst_iff] at *
  omega

/-- A list of records in the order of listings is determined by its elements, if no number occurs
twice among them. -/
lemma eq_mergeSort_newerFirst {records sorted : List Record}
    (hids : (records.map Record.id).Nodup) (hperm : sorted.Perm records)
    (hsorted : sorted.Pairwise fun a b => newerFirst a b = true) :
    sorted = records.mergeSort newerFirst := by
  refine (hperm.trans (List.mergeSort_perm _ _).symm).eq_of_pairwise ?_ hsorted
    (List.pairwise_mergeSort newerFirst_trans newerFirst_total records)
  intro a b ha hb hab hba
  exact List.inj_on_of_nodup_map hids (hperm.mem_iff.1 ha) (List.mem_mergeSort.1 hb)
    (id_eq_of_newerFirst hab hba)

/-! ## Listing the rows of a table -/

namespace Row

variable {a b row : Row}

/-- A row that does not stand before another is listed behind it. -/
lemma newerFirst_toRecord : newerFirst a.toRecord b.toRecord = true ↔ ¬ Before b a := by
  rw [newerFirst_iff, Before]
  simp only [toRecord]
  omega

/-- The condition of a selection on a row is that its record is asked for. -/
lemma accepts_toRecord (row : Row) (q : Query) :
    q.accepts row.toRecord = decide (row.Matches q) := by
  rw [Bool.eq_iff_iff, decide_eq_true_iff]
  simp only [Query.accepts, Bool.and_eq_true, Bool.or_eq_true, decide_eq_true_eq, and_assoc]
  exact Iff.rfl

/-- The record of a stored record is that record under the key of the row. -/
lemma toRecord_ofRecord (id : Int) {r : Record} (h : r.activeSlots < 0x10000000000000000) :
    (ofRecord id r).toRecord = { r with id } := by
  simp only [toRecord, ofRecord, toUnsigned_toSigned _ h]

instance : Std.Total fun a b : Row => ¬ Before b a where
  total a b := by
    rw [← newerFirst_toRecord, ← newerFirst_toRecord, ← Bool.or_eq_true]
    exact newerFirst_total _ _

instance : IsTrans Row fun a b => ¬ Before b a where
  trans a b c := by
    rw [← newerFirst_toRecord, ← newerFirst_toRecord, ← newerFirst_toRecord]
    exact newerFirst_trans _ _ _

/-- A row is inserted where the order of rows has its place. -/
lemma insertInto_eq_orderedInsert (row : Row) (rows : List Row) :
    row.insertInto rows = rows.orderedInsert (fun a b => ¬ Before b a) row := by
  induction rows with
  | nil => rfl
  | cons other rest ih =>
    rw [insertInto, List.orderedInsert_cons, ih]
    split_ifs <;> rfl

end Row

namespace Table

variable {t : Table}

/-- Putting rows in order is sorting by insertion. -/
lemma ordered_eq_insertionSort (t : Table) (q : Query) : t.ordered q =
    (t.rows.toList.filter fun row => decide (row.Matches q)).reverse.insertionSort
      fun a b => ¬ Row.Before b a := by
  simp only [ordered, List.insertionSort, List.foldr_reverse, Row.insertInto_eq_orderedInsert]

/-- Ordering only arranges the rows that match. -/
lemma perm_ordered (t : Table) (q : Query) :
    (t.ordered q).Perm (t.rows.toList.filter fun row => decide (row.Matches q)) := by
  rw [ordered_eq_insertionSort]
  exact (List.perm_insertionSort _ _).trans (List.reverse_perm _)

/-- The records of rows in order are in the order of listings. -/
lemma pairwise_ordered (t : Table) (q : Query) :
    ((t.ordered q).map Row.toRecord).Pairwise fun a b => newerFirst a b = true := by
  rw [List.pairwise_map, ordered_eq_insertionSort]
  exact (List.pairwise_insertionSort _ _).imp Row.newerFirst_toRecord.2

/-- The records that are asked for are those of the rows that match. -/
lemma filter_accepts_toRecord (t : Table) (q : Query) :
    (t.rows.toList.map Row.toRecord).filter q.accepts =
      (t.rows.toList.filter fun row => decide (row.Matches q)).map Row.toRecord := by
  rw [List.filter_map]
  exact congrArg _ (List.filter_congr fun row _ => row.accepts_toRecord q)

/-- The limit of a listing is never negative. -/
lemma select_eq_take (t : Table) (q : Query) :
    t.select q = ((t.ordered q).map Row.toRecord).take q.effectiveLimit.toNat := by
  have hlimit : ¬ q.effectiveLimit < 0 := by
    rw [Query.effectiveLimit, defaultLimit]
    split_ifs <;> omega
  rw [select, cut, if_neg hlimit, List.map_take]

/-- **Listing the rows of a table** lists their records, if no key occurs twice.

**Proof sketch.** The rows put in order are a sorted permutation of the rows that match, and with
distinct keys there is only one (`eq_mergeSort_newerFirst`). -/
theorem select_eq_listed (hids : ((t.rows.toList.map Row.toRecord).map Record.id).Nodup)
    (q : Query) : t.select q = listed (t.rows.toList.map Row.toRecord) q := by
  rw [select_eq_take, listed]
  congr 1
  refine eq_mergeSort_newerFirst (hids.sublist (List.filter_sublist.map _)) ?_
    (t.pairwise_ordered q)
  rw [filter_accepts_toRecord]
  exact (t.perm_ordered q).map _

end Table

/-! ## Appending and listing through the view -/

namespace Backend

variable {b : Backend} {r : Record}

/-- **Appending** to an open history succeeds: the record comes last, under the next number. -/
theorem append_of_isOpen (h : b.isOpen = true) (hr : r.activeSlots < 0x10000000000000000) :
    ∃ b', b.append r = .ok (b.lastId + 1, b') ∧ b'.isOpen = true ∧ b'.lastId = b.lastId + 1 ∧
      b'.records = b.records ++ [{ r with id := b.lastId + 1 }] := by
  cases b with
  | journal j =>
    refine ⟨_, rfl, rfl, ?_, ?_⟩
    · simp [lastId]
    · simp [records, lastId, Journal.nextId]
  | table t =>
    cases t with
    | none => cases h
    | some t =>
      refine ⟨_, rfl, rfl, rfl, ?_⟩
      simp only [records, lastId, Array.toList_push, List.map_append, List.map_singleton,
        Row.toRecord_ofRecord _ hr]
  | sealed t => cases h

/-- The histories to which no record can be appended are those that are not open. -/
lemma isOpen_eq_false_iff (r : Record) : b.isOpen = false ↔ ∃ e, b.append r = .error e := by
  rcases b with j | (_ | t) | t <;> simp [isOpen, append]

/-- Listing an open history succeeds and lists the records that are held. -/
theorem select_of_isOpen (h : b.isOpen = true) (hn : b.Numbered) (q : Query) :
    b.select q = .ok (listed b.records q) := by
  cases b with
  | journal j => rfl
  | table t =>
    cases t with
    | none => cases h
    | some t =>
      exact congrArg Except.ok (Table.select_eq_listed (hn.ascending.imp fun hlt => ne_of_lt hlt) q)
  | sealed t => cases h

/-- A record under the next number keeps the numbers ascending. -/
lemma Numbered.append {b' : Backend} (hn : b.Numbered) (hid : b'.lastId = b.lastId + 1)
    (hrecords : b'.records = b.records ++ [{ r with id := b.lastId + 1 }]) : b'.Numbered := by
  constructor
  · rw [hrecords, List.map_append, List.pairwise_append]
    refine ⟨hn.ascending, List.pairwise_singleton _ _, fun i hi k hk => ?_⟩
    obtain ⟨held, hheld, rfl⟩ := List.mem_map.1 hi
    rw [List.map_singleton, List.mem_singleton] at hk
    rw [hk]
    exact Int.lt_add_one_of_le (hn.le_lastId held hheld)
  · intro held hheld
    rw [hid]
    rw [hrecords, List.mem_append, List.mem_singleton] at hheld
    rcases hheld with hheld | rfl
    · have hle := hn.le_lastId held hheld
      omega
    · exact le_rfl

end Backend

end Audit

end InFlight
