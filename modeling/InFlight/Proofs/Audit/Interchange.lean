import InFlight.Proofs.Audit.Contents

/-!
# Histories in memory and in a table are interchangeable

Whoever appends records and lists them cannot tell whether the history is kept in memory or in a
table.  Two open histories that hold the same records under the same numbers give the same answer
to every operation, and hold the same records afterwards; and both start empty.

## Main definitions

* `InFlight.Audit.Operation`, `InFlight.Audit.Answer` — what is asked of a history and what it
  answers.
* `InFlight.Audit.Backend.run` — the answers to one operation after another.
* `InFlight.Audit.Backend.Agrees` — two histories that hold the same records.

## Main results

* `InFlight.Audit.Backend.Agrees.perform`, `InFlight.Audit.Backend.Agrees.run` — one operation, and
  every sequence of them.
* `InFlight.Audit.Backend.interchangeable_run` — the two kinds of history, from their start.

## Design

A run ends with the first operation that fails, so that two runs with answers have answered
everything.  Counts of slots are 64-bit words; all other numbers are arbitrary.
-/

set_option relaxedAutoImplicit false
set_option autoImplicit false

namespace InFlight

namespace Audit

/-- What is asked of a history. -/
inductive Operation where
  | append (r : Record)
  | select (q : Query)

/-- What a history answers: the number of the record appended, or the records listed. -/
inductive Answer where
  | appended (id : Int)
  | selected (records : List Record)

/-- The count of a record to be appended is a 64-bit word. -/
def Operation.Fits : Operation → Prop
  | .append r => r.activeSlots < 0x10000000000000000
  | .select _ => True

namespace Backend

/-- One operation: the answer and the history after it. -/
def perform (b : Backend) : Operation → Except Error (Answer × Backend)
  | .append r => (b.append r).map fun (id, b') => (.appended id, b')
  | .select q => (b.select q).map fun records => (.selected records, b)

/-- The answers to one operation after another. -/
def run (b : Backend) : List Operation → Except Error (List Answer)
  | [] => .ok []
  | op :: ops => do
    let (answer, b') ← b.perform op
    let answers ← b'.run ops
    return answer :: answers

/-- Two open histories hold the same records, under ascending numbers. -/
structure Agrees (b b' : Backend) : Prop where
  isOpen : b.isOpen = true
  isOpen' : b'.isOpen = true
  records : b.records = b'.records
  lastId : b.lastId = b'.lastId
  numbered : b.Numbered

namespace Agrees

variable {b b' : Backend}

/-- A history that is kept in memory and one that is kept in a table, both empty. -/
lemma empty : Agrees (.journal {}) (.table (some {})) where
  isOpen := rfl
  isOpen' := rfl
  records := rfl
  lastId := rfl
  numbered := ⟨List.Pairwise.nil, fun _ h => by cases h⟩

/-- Of two backends that agree the second one is numbered like the first. -/
lemma numbered' (h : b.Agrees b') : b'.Numbered where
  ascending := h.records ▸ h.numbered.ascending
  le_lastId := h.lastId ▸ h.records ▸ h.numbered.le_lastId

/-- **One operation**: both histories answer, they give the same answer, and they hold the same
records again. -/
theorem perform (h : b.Agrees b') {op : Operation} (hop : op.Fits) :
    ∃ answer c c', b.perform op = .ok (answer, c) ∧ b'.perform op = .ok (answer, c') ∧
      c.Agrees c' := by
  cases op with
  | append r =>
    obtain ⟨c, happend, hopen, hid, hrecords⟩ := append_of_isOpen h.isOpen hop
    obtain ⟨c', happend', hopen', hid', hrecords'⟩ := append_of_isOpen h.isOpen' hop
    refine ⟨.appended (b.lastId + 1), c, c', ?_, ?_, hopen, hopen', ?_, ?_, ?_⟩
    · simp only [Backend.perform, happend, Except.map]
    · simp only [Backend.perform, happend', Except.map, h.lastId]
    · rw [hrecords, hrecords', h.records, h.lastId]
    · rw [hid, hid', h.lastId]
    · exact h.numbered.append hid hrecords
  | select q =>
    refine ⟨.selected (listed b.records q), b, b', ?_, ?_, h⟩
    · simp only [Backend.perform, select_of_isOpen h.isOpen h.numbered, Except.map]
    · simp only [Backend.perform, select_of_isOpen h.isOpen' h.numbered', Except.map, h.records]

/-- Every sequence of operations is answered alike. -/
lemma run (h : b.Agrees b') {ops : List Operation} (hops : ∀ op ∈ ops, op.Fits) :
    ∃ answers, b.run ops = .ok answers ∧ b'.run ops = .ok answers := by
  induction ops generalizing b b' with
  | nil => exact ⟨[], rfl, rfl⟩
  | cons op ops ih =>
    obtain ⟨hop, hops⟩ := List.forall_mem_cons.1 hops
    obtain ⟨answer, c, c', hperform, hperform', hagrees⟩ := h.perform hop
    obtain ⟨answers, hrun, hrun'⟩ := ih hagrees hops
    refine ⟨answer :: answers, ?_, ?_⟩
    · rw [Backend.run, hperform]
      simp only [bind, Except.bind, hrun]
      rfl
    · rw [Backend.run, hperform']
      simp only [bind, Except.bind, hrun']
      rfl

end Agrees

/-- **A history in memory and a history in a table are interchangeable**: from the start, every
sequence of appends and listings is answered by both, without an error and with the same numbers
and the same records in the same order.  Records and queries are arbitrary, but for counts of
slots being 64-bit words.

**Proof sketch.** Both histories hold the same records after every operation (`Agrees.perform`): a
count survives the column that it is stored in, and both ways of listing sort and cut the same
records. -/
theorem interchangeable_run (ops : List Operation) (hfits : ∀ op ∈ ops, op.Fits) :
    ∃ answers, (Backend.journal {}).run ops = .ok answers ∧
      (Backend.table (some {})).run ops = .ok answers :=
  Agrees.empty.run hfits

/-- Two records of the same time, one of them with the greatest count, are listed by number, the
later one first, whatever number they carried. -/
theorem interchangeable_full_word :
    let ops : List Operation :=
      [.append ⟨7, 1, "a", 0xFFFFFFFFFFFFFFFF, 0, -5⟩, .append ⟨0, -1, "b", 0, -60, -5⟩, .select {}]
    (∀ op ∈ ops, op.Fits) ∧
      (Backend.journal {}).run ops = .ok [.appended 1, .appended 2,
        .selected [⟨2, -1, "b", 0, -60, -5⟩, ⟨1, 1, "a", 0xFFFFFFFFFFFFFFFF, 0, -5⟩]] := by
  intro ops
  have hfits : ∀ op ∈ ops, op.Fits := by
    simp [ops, Operation.Fits]
  obtain ⟨answers, hjournal, htable⟩ := interchangeable_run ops hfits
  have hrows : (Backend.table (some {})).run ops = .ok [.appended 1, .appended 2,
      .selected [⟨2, -1, "b", 0, -60, -5⟩, ⟨1, 1, "a", 0xFFFFFFFFFFFFFFFF, 0, -5⟩]] := rfl
  exact ⟨hfits, hjournal.trans (htable.symm.trans hrows)⟩

end Backend

end Audit

end InFlight
