import Mathlib.Data.List.InsertIdx
import InFlight.Proofs.Audit.Interchange
import InFlight.Proofs.Audit.Sweep

/-!
# The answers of a history in memory

A history that is kept in memory only grows.  The records that it holds are those appended so far,
numbered by their places and otherwise as they were given, whatever was listed in between.  A
listing shows all records that are asked for, the newest first, cut to the limit of the query; and
one more record changes it in one place.

## Main definitions

* `InFlight.Audit.Query.Asks`, `InFlight.Audit.Query.rowLimit` — which records a query asks for, and
  how many.
* `InFlight.Audit.Record.Newer` — the strict order of listings.
* `InFlight.Audit.Arranged`, `InFlight.Audit.Complete` — a list of all records that are asked for, in
  order and in strict order.
* `InFlight.Audit.Answer.Right` — the right answer of a history that holds given records.
* `InFlight.Audit.Journal.perform`, `InFlight.Audit.Journal.run` — one operation, and one after
  another, with the answers.

## Main results

* `InFlight.Audit.Complete.insertIdx` — where one more record stands.
* `InFlight.Audit.Journal.Holds.perform`, `InFlight.Audit.Journal.Holds.run` — one operation, and
  every sequence of them.
* `InFlight.Audit.Journal.exact_run` — what is held and what is answered, from the start.
-/

set_option relaxedAutoImplicit false
set_option autoImplicit false

namespace InFlight

namespace Audit

/-! ## What is asked for -/

/-- A query asks for a record in its span of time and of its account.  The bounds belong to the
span, and a bound or an account that is not positive excludes nothing. -/
structure Query.Asks (q : Query) (r : Record) : Prop where
  start : 0 < q.startTime → q.startTime ≤ r.createdAt
  stop : 0 < q.endTime → r.createdAt ≤ q.endTime
  account : 0 < q.owner → r.owner = q.owner

/-- How many records a query asks for. -/
def Query.rowLimit (q : Query) : Nat := if q.limit ≤ 0 then 100 else q.limit.toNat

/-- The strict order of listings: by descending time, and by descending number at equal times. -/
def Record.Newer (a b : Record) : Prop :=
  b.createdAt < a.createdAt ∨ b.createdAt = a.createdAt ∧ b.id < a.id

namespace Query

variable {q : Query} {r : Record}

/-- What is accepted are the records that are asked for. -/
lemma accepts_iff : q.accepts r = true ↔ q.Asks r := by
  simp only [accepts, Bool.and_eq_true, Bool.or_eq_true, decide_eq_true_eq]
  constructor
  · rintro ⟨⟨hstart, hstop⟩, haccount⟩
    exact ⟨fun hpos => hstart.resolve_left (by omega), fun hpos => hstop.resolve_left (by omega),
      fun hpos => haccount.resolve_left (Int.not_le.2 hpos)⟩
  · rintro ⟨hstart, hstop, haccount⟩
    exact ⟨⟨by omega, by omega⟩, (Int.lt_or_le 0 q.owner).symm.imp_right haccount⟩

instance (q : Query) : DecidablePred q.Asks := fun _ => decidable_of_iff _ accepts_iff

/-- The records that pass the filters are those asked for. -/
lemma filter_accepts (q : Query) (held : List Record) :
    held.filter q.accepts = held.filter fun r => q.Asks r :=
  List.filter_congr fun r _ => by rw [Bool.eq_iff_iff, accepts_iff, decide_eq_true_iff]

/-- The limit that counts, as a number of rows. -/
lemma toNat_effectiveLimit (q : Query) : q.effectiveLimit.toNat = q.rowLimit := by
  unfold effectiveLimit rowLimit defaultLimit
  split_ifs <;> rfl

/-- Which records are asked for does not depend on their numbers. -/
lemma asks_withId (id : Int) : q.Asks { r with id } ↔ q.Asks r :=
  ⟨fun h => ⟨h.start, h.stop, h.account⟩, fun h => ⟨h.start, h.stop, h.account⟩⟩

end Query

namespace Record.Newer

variable {a b c : Record}

/-- Being newer is transitive. -/
lemma trans (hab : a.Newer b) (hbc : b.Newer c) : a.Newer c := by
  unfold Newer at *
  omega

/-- A newer record comes first. -/
lemma newerFirst (h : a.Newer b) : newerFirst a b = true := by
  rw [newerFirst_iff]
  unfold Newer at h
  omega

end Record.Newer

/-- All records among `held` that a query asks for, each of them as often as it is held, in the
order of listings.  Records with the same time and number stand in any order. -/
structure Arranged (held : List Record) (q : Query) (rows : List Record) : Prop where
  perm : rows.Perm (held.filter fun r => q.Asks r)
  sorted : rows.Pairwise fun a b => newerFirst a b = true

/-- All records among `held` that a query asks for, each of them as often as it is held, in the
strict order of listings. -/
structure Complete (held : List Record) (q : Query) (rows : List Record) : Prop where
  perm : rows.Perm (held.filter fun r => q.Asks r)
  sorted : rows.Pairwise Record.Newer

namespace Arranged

variable {held rows : List Record} {q : Query}

/-- The records that are asked for, sorted for a listing. -/
lemma mergeSort (held : List Record) (q : Query) :
    Arranged held q ((held.filter q.accepts).mergeSort newerFirst) where
  perm := q.filter_accepts held ▸ List.mergeSort_perm _ newerFirst
  sorted := List.pairwise_mergeSort newerFirst_trans newerFirst_total _

/-- The records of the rows that match, in order. -/
lemma ordered (t : Table) (q : Query) :
    Arranged (t.rows.toList.map Row.toRecord) q ((t.ordered q).map Row.toRecord) where
  perm := by
    rw [← q.filter_accepts, t.filter_accepts_toRecord]
    exact (t.perm_ordered q).map _
  sorted := t.pairwise_ordered q

/-- If no number occurs twice, the order is strict. -/
lemma complete (h : Arranged held q rows) (hids : (held.map Record.id).Nodup) :
    Complete held q rows := by
  have hdistinct : rows.Pairwise fun a b => a.id ≠ b.id := by
    refine List.pairwise_map.1 ((h.perm.map Record.id).nodup_iff.2 ?_)
    exact hids.sublist (List.filter_sublist.map _)
  refine ⟨h.perm, (h.sorted.and hdistinct).imp fun hab => ?_⟩
  obtain ⟨hle, hne⟩ := hab
  rw [newerFirst_iff] at hle
  unfold Record.Newer
  omega

/-- How many of them come first, up to a limit. -/
lemma length_take (h : Arranged held q rows) (limit : Nat) :
    (rows.take limit).length = min limit (held.countP fun r => q.Asks r) := by
  rw [List.length_take, h.perm.length_eq, List.countP_eq_length_filter]

end Arranged

namespace Complete

variable {held rows : List Record} {q : Query} {r : Record}

/-- The records that are asked for are complete when they are sorted for a listing, if no number
occurs twice. -/
lemma mergeSort (hids : (held.map Record.id).Nodup) (q : Query) :
    Complete held q ((held.filter q.accepts).mergeSort newerFirst) :=
  (Arranged.mergeSort held q).complete hids

/-- A listing shows the first records of a complete list. -/
lemma listed_eq (h : Complete held q rows) (hids : (held.map Record.id).Nodup) :
    listed held q = rows.take q.rowLimit := by
  rw [listed, Query.toNat_effectiveLimit, q.filter_accepts, ← eq_mergeSort_newerFirst
    (hids.sublist (List.filter_sublist.map _)) h.perm (h.sorted.imp Record.Newer.newerFirst)]

/-- A record under a number higher than all others keeps the order before the first of those that
are not later.

**Proof sketch.** Induction on the list.  The new record comes before the first row if that is not
later, and then before all others, which the first row precedes; otherwise it comes somewhere behind
the first row. -/
lemma pairwise_insertIdx (h : rows.Pairwise Record.Newer) (hids : ∀ row ∈ rows, row.id < r.id) :
    (rows.insertIdx (rows.findIdx fun row => row.createdAt ≤ r.createdAt) r).Pairwise
      Record.Newer := by
  induction rows with
  | nil => exact List.pairwise_singleton _ _
  | cons row rest ih =>
    obtain ⟨hrow, hrest⟩ := List.pairwise_cons.1 h
    obtain ⟨hid, hids⟩ := List.forall_mem_cons.1 hids
    by_cases hle : row.createdAt ≤ r.createdAt
    · have hnew : r.Newer row := by
        unfold Record.Newer
        omega
      simp only [List.findIdx_cons, hle, decide_true, cond_true, List.insertIdx_zero]
      refine List.pairwise_cons.2 ⟨fun other hother => ?_, h⟩
      rcases List.mem_cons.1 hother with rfl | hother
      · exact hnew
      · exact hnew.trans (hrow other hother)
    · have hold : row.Newer r := .inl (by omega)
      simp only [List.findIdx_cons, hle, decide_false, cond_false, List.insertIdx_succ_cons]
      refine List.pairwise_cons.2 ⟨fun other hother => ?_, ih hrest hids⟩
      rcases List.eq_or_mem_of_mem_insertIdx hother with rfl | hother
      · exact hold
      · exact hrow other hother

/-- **One more record**, under a number higher than all others: if it is asked for, it stands before
the first of those that are not later. -/
theorem insertIdx (h : Complete held q rows) (hids : ∀ row ∈ held, row.id < r.id) :
    Complete (held ++ [r]) q
      (if q.Asks r then rows.insertIdx (rows.findIdx fun row => row.createdAt ≤ r.createdAt) r
        else rows) := by
  by_cases hasks : q.Asks r
  · rw [if_pos hasks]
    constructor
    · rw [List.filter_append, List.filter_cons_of_pos (by simpa using hasks),
        List.filter_nil]
      have hinsert := List.perm_insertIdx r rows
        (List.findIdx_le_length (p := fun row => row.createdAt ≤ r.createdAt))
      exact hinsert.trans ((h.perm.cons r).trans (List.perm_append_singleton r _).symm)
    · exact pairwise_insertIdx h.sorted fun row hrow =>
        hids row (List.mem_of_mem_filter (h.perm.mem_iff.1 hrow))
  · rw [if_neg hasks]
    constructor
    · rw [List.filter_append, List.filter_cons_of_neg (by simpa using hasks),
        List.filter_nil, List.append_nil]
      exact h.perm
    · exact h.sorted

end Complete

/-! ## Numbers by place -/

section Numbered

variable (first : Int) (records : List Record)

/-- Numbering adds no record and drops none. -/
@[simp]
lemma length_numbered : (numbered first records).length = records.length := by
  induction records generalizing first with
  | nil => rfl
  | cons r rest ih => rw [numbered, List.length_cons, ih, List.length_cons]

/-- Consecutive numbers lie between the first one and the one that comes next. -/
lemma id_of_mem_numbered {row : Record} (h : row ∈ numbered first records) :
    first ≤ row.id ∧ row.id < first + records.length := by
  obtain ⟨k, r, hr, rfl⟩ := mem_numbered.1 h
  obtain ⟨hk, -⟩ := List.getElem?_eq_some_iff.1 hr
  simp only
  omega

/-- No number occurs twice. -/
lemma nodup_ids_numbered : ((numbered first records).map Record.id).Nodup := by
  induction records generalizing first with
  | nil => exact List.nodup_nil
  | cons r rest ih =>
    rw [numbered, List.map_cons, List.nodup_cons]
    refine ⟨fun hmem => ?_, ih (first + 1)⟩
    obtain ⟨row, hrow, hid⟩ := List.mem_map.1 hmem
    have hlow := (id_of_mem_numbered (first + 1) rest hrow).1
    simp only at hid
    omega

/-- One more record gets the number of its place, counted from one. -/
lemma numbered_concat (r : Record) : numbered 1 (records ++ [r]) =
    numbered 1 records ++ [{ r with id := records.length + 1 }] := by
  rw [numbered_append, Int.add_comm]
  rfl

end Numbered

/-! ## Operations -/

/-- The record that an operation appends. -/
def Operation.record? : Operation → Option Record
  | .append r => some r
  | .select _ => none

/-- The records that are appended, in order. -/
def appended (ops : List Operation) : List Record := ops.filterMap Operation.record?

/-- The right answer of a history that holds the given records: to an append the next number, and to
a query as many of the records that are asked for as it may list, from the newest on. -/
def Answer.Right (held : List Record) : Operation → Answer → Prop
  | .append _, .appended id => id = held.length + 1
  | .select q, .selected rows =>
    rows.length = min q.rowLimit (held.countP fun r => q.Asks r) ∧
      ∃ all, Complete held q all ∧ rows = all.take q.rowLimit
  | _, _ => False

namespace Journal

/-- One operation: the answer and the history after it. -/
def perform (j : Journal) : Operation → Answer × Journal
  | .append r => (.appended (j.append r).1, (j.append r).2)
  | .select q => (.selected (j.select q), j)

/-- One operation after another: the answers and the history after all of them. -/
def run (j : Journal) : List Operation → List Answer × Journal
  | [] => ([], j)
  | op :: ops =>
    let (answer, j) := j.perform op
    let (answers, j) := j.run ops
    (answer :: answers, j)

/-- The journal holds the given records, numbered by their places. -/
def Holds (j : Journal) (records : List Record) : Prop := j.records.toList = numbered 1 records

namespace Holds

variable {j : Journal} {records : List Record}

/-- The next number is one more than there are records. -/
lemma nextId (h : j.Holds records) : j.nextId = records.length + 1 := by
  rw [Journal.nextId, ← Array.length_toList, h, length_numbered]

/-- A record appended is held under the next number. -/
lemma append (h : j.Holds records) (r : Record) : (j.append r).2.Holds (records ++ [r]) := by
  simp only [Holds, Journal.append, Array.toList_push, h.nextId, numbered_concat]
  rw [h]

/-- A selection lists the first of the records that are asked for. -/
lemma select_eq (h : j.Holds records) {q : Query} {all : List Record}
    (hall : Complete (numbered 1 records) q all) : j.select q = all.take q.rowLimit := by
  rw [← hall.listed_eq (nodup_ids_numbered 1 records), ← h]
  rfl

/-- **One operation** gives the right answer, and appends a record if it is one that does. -/
theorem perform (h : j.Holds records) (op : Operation) :
    Answer.Right (numbered 1 records) op (j.perform op).1 ∧
      (j.perform op).2.Holds (records ++ op.record?.toList) := by
  cases op with
  | append r =>
    refine ⟨?_, h.append r⟩
    show j.nextId = (numbered 1 records).length + 1
    rw [h.nextId, length_numbered]
  | select q =>
    have hall := Complete.mergeSort (nodup_ids_numbered 1 records) q
    refine ⟨⟨?_, _, hall, h.select_eq hall⟩, ?_⟩
    · rw [h.select_eq hall, (Arranged.mergeSort _ q).length_take]
    · simpa [Journal.perform, Operation.record?] using h

/-- **Every sequence of operations** is answered rightly, each operation for the records held when
it came.

**Proof sketch.** Induction on the operations; the records held are the invariant. -/
theorem run (h : j.Holds records) (ops : List Operation) :
    (j.run ops).2.Holds (records ++ appended ops) ∧ (j.run ops).1.length = ops.length ∧
      ∀ k op, ops[k]? = some op → ∃ answer, (j.run ops).1[k]? = some answer ∧
        Answer.Right (numbered 1 (records ++ appended (ops.take k))) op answer := by
  induction ops generalizing j records with
  | nil => exact ⟨by simpa [Journal.run, appended] using h, rfl, by simp⟩
  | cons op ops ih =>
    obtain ⟨hright, hholds⟩ := h.perform op
    obtain ⟨hholds, hlength, hanswers⟩ := ih hholds
    have happended : ∀ ops, appended (op :: ops) = op.record?.toList ++ appended ops := by
      intro ops
      cases op <;> rfl
    refine ⟨?_, congrArg (· + 1) hlength, fun k op' hop => ?_⟩
    · rw [happended, ← List.append_assoc]
      exact hholds
    · cases k with
      | zero =>
        obtain rfl : op = op' := by simpa using hop
        refine ⟨(j.perform op).1, rfl, ?_⟩
        simpa [appended] using hright
      | succ k =>
        rw [List.take_succ_cons, happended, ← List.append_assoc]
        exact hanswers k op' hop

end Holds

/-! ## From the start -/

/-- The backend in memory answers every operation, and as the journal does. -/
lemma run_journal (j : Journal) (ops : List Operation) :
    (Backend.journal j).run ops = .ok (j.run ops).1 := by
  induction ops generalizing j with
  | nil => rfl
  | cons op ops ih =>
    have hperform : (Backend.journal j).perform op =
        .ok ((j.perform op).1, .journal (j.perform op).2) := by
      cases op <;> rfl
    rw [Backend.run, hperform]
    simp only [bind, Except.bind, ih]
    rfl

/-- **A history in memory is only appended to, and its listings are exact**, whatever is asked of
it from the start.  It holds the records appended so far, each under the number of its place and
otherwise as it was given, and keeps them when more is asked of it.  Every operation is answered,
an append with the next number and a query with the first of the records that it asks for, for the
records held when it came.  One more record changes what any query shows in one place: if it is
asked for, it is inserted before the first row that is not later.

**Proof sketch.** The records held are the invariant of a run (`Holds.run`).  No number occurs
twice among them, so that a list in the order of listings is determined by its records, and the one
with a further record is known (`Complete.insertIdx`). -/
theorem exact_run (ops : List Operation) :
    let start : Journal := {}
    let answers := (start.run ops).1
    let j := (start.run ops).2
    let held := numbered 1 (appended ops)
    j.records.toList = held ∧
      (∀ more, held <+: (start.run (ops ++ more)).2.records.toList) ∧
      (Backend.journal start).run ops = .ok answers ∧ answers.length = ops.length ∧
      (∀ k op, ops[k]? = some op → ∃ answer, answers[k]? = some answer ∧
        Answer.Right (numbered 1 (appended (ops.take k))) op answer) ∧
      ∀ r q, ∃ all, Complete held q all ∧ j.select q = all.take q.rowLimit ∧
        let stored : Record := { r with id := held.length + 1 }
        (j.append r).2.select q =
          (if q.Asks r then
            all.insertIdx (all.findIdx fun row => row.createdAt ≤ r.createdAt) stored
          else all).take q.rowLimit := by
  intro start answers j held
  have hstart : start.Holds [] := rfl
  have hholds : j.Holds (appended ops) := (hstart.run ops).1
  obtain ⟨-, hlength, hanswers⟩ := hstart.run ops
  refine ⟨hholds, fun more => ?_, start.run_journal ops, hlength, hanswers, fun r q => ?_⟩
  · have hmore : (start.run (ops ++ more)).2.records.toList = numbered 1 (appended (ops ++ more)) :=
      (hstart.run (ops ++ more)).1
    rw [hmore, appended, List.filterMap_append, numbered_append]
    exact List.prefix_append _ _
  · have hall := Complete.mergeSort (nodup_ids_numbered 1 (appended ops)) q
    refine ⟨_, hall, hholds.select_eq hall, ?_⟩
    intro stored
    have hids : ∀ row ∈ held, row.id < stored.id := fun row hrow => by
      have hid := (id_of_mem_numbered 1 (appended ops) hrow).2
      simp only [stored, held, length_numbered]
      omega
    have hheld : numbered 1 (appended ops ++ [r]) = held ++ [stored] := by
      simp only [numbered_concat, held, stored, length_numbered]
    have hone := hall.insertIdx hids
    rw [← hheld] at hone
    rw [(hholds.append r).select_eq hone, if_congr (Query.asks_withId _) rfl rfl]

/-- Of three records two have the same time and the other has a negative one.  They are listed by
time and then by number, whatever number they carried, and a query for one record of an account
lists its newest. -/
theorem exact_three_records :
    let ops : List Operation := [.append ⟨7, 1, "a", 3, 60, 9⟩, .append ⟨0, 2, "b", 4, 60, -5⟩,
      .append ⟨-1, 1, "c", 5, 60, 9⟩, .select {}, .select { endTime := 9, owner := 1, limit := 1 }]
    let answers := (({} : Journal).run ops).1
    let held : List Record :=
      [⟨1, 1, "a", 3, 60, 9⟩, ⟨2, 2, "b", 4, 60, -5⟩, ⟨3, 1, "c", 5, 60, 9⟩]
    ops[3]? = some (.select {}) ∧
      answers = [.appended 1, .appended 2, .appended 3,
        .selected [⟨3, 1, "c", 5, 60, 9⟩, ⟨1, 1, "a", 3, 60, 9⟩, ⟨2, 2, "b", 4, 60, -5⟩],
        .selected [⟨3, 1, "c", 5, 60, 9⟩]] ∧
      Answer.Right held (.select {})
        (.selected [⟨3, 1, "c", 5, 60, 9⟩, ⟨1, 1, "a", 3, 60, 9⟩, ⟨2, 2, "b", 4, 60, -5⟩]) := by
  intro ops answers held
  have hop : ops[3]? = some (.select {}) := rfl
  have hanswers : answers = [.appended 1, .appended 2, .appended 3,
      .selected [⟨3, 1, "c", 5, 60, 9⟩, ⟨1, 1, "a", 3, 60, 9⟩, ⟨2, 2, "b", 4, 60, -5⟩],
      .selected [⟨3, 1, "c", 5, 60, 9⟩]] := by
    simp [answers, ops, run, Journal.perform, Journal.append, Journal.nextId, select, selectAll,
      Query.accepts, Query.effectiveLimit, defaultLimit, newerFirst, List.mergeSort,
      List.MergeSort.Internal.splitInTwo]
  obtain ⟨-, -, -, -, hright, -⟩ := exact_run ops
  obtain ⟨answer, hanswer, hright⟩ := hright 3 _ hop
  have hthird : answers[3]? = some answer := hanswer
  rw [hanswers] at hthird
  obtain rfl := Option.some.inj hthird
  exact ⟨hop, hanswers, hright⟩

end Journal

end Audit

end InFlight
