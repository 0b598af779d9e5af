import InFlight.Database.Query.Plan

/-!
# Answers

A selection is answered on the way that its plan takes.  As many rows as may be listed are kept in
order; a row that comes behind all of these is left out before the rest of it is read.  Rows that
are met in order already are listed until there are enough.  Rows that are met in order by the
first columns only are sorted in blocks of those that are alike in these, and no block is begun
when there are enough before it.

So damage counts only as far as a selection comes to it.

## Main definitions

* `InFlight.Database.Relation.answer?` — the rows that a selection lists.
* `InFlight.Database.Relation.count?` — how many rows there are.
-/

set_option relaxedAutoImplicit false
set_option autoImplicit false

namespace InFlight

namespace Database

/-- A row that is kept: what it is sorted by, and what is asked for of it. -/
structure Candidate where
  rank : List Value
  values : List Value

/-- How far a selection has come: the rows that are sure to be listed, those that are kept of the
block that has been begun, with the values in which its rows are alike, how many rows may still be
listed from that block on, and where the last search for a row has ended. -/
structure Progression where
  done : List (List Value) := []
  block : List Candidate := []
  alike : Option (List Value) := none
  left : Nat
  lookedUp : Option Cursor := none

namespace Relation

variable (r : Relation)

/-- A candidate among others in order, behind those that are as great. -/
def insertCandidate (order : List Nat) (c : Candidate) : List Candidate → List Candidate
  | [] => [c]
  | d :: ds =>
    if r.rankBy order c.rank d.rank = .lt then c :: d :: ds else d :: insertCandidate order c ds

/-- A candidate that is inserted makes one candidate more. -/
theorem length_insertCandidate (order : List Nat) (c : Candidate) (ds : List Candidate) :
    (r.insertCandidate order c ds).length = ds.length + 1 := by
  induction ds with
  | nil => rfl
  | cons d ds ih =>
    unfold insertCandidate
    split <;> simp [ih]

/-- There is room for a candidate among those that are kept, or it comes before the last of them. -/
def isWanted (order : List Nat) (p : Progression) (rank : List Value) : Bool :=
  decide (p.block.length < p.left) ||
    p.block.getLast?.any fun last => r.rankBy order rank last.rank == .lt

/-- Keeps a candidate; the last one is dropped if there are too many. -/
def keep (order : List Nat) (p : Progression) (c : Candidate) : Progression :=
  let others := if p.block.length < p.left then p.block else p.block.dropLast
  { p with block := r.insertCandidate order c others }

/-- Ends a block. -/
def endBlock (p : Progression) : Progression :=
  { p with
    done := p.done ++ p.block.map Candidate.values
    block := []
    left := p.left - p.block.length }

/-- The values of a row behind a sorting.  A real number that has only been made for its column comes
back as the integer that it is. -/
def sortedValues (columns : List Nat) (vs : List Value) : List Value :=
  (columns.zip vs).map fun (i, v) =>
    if r.table.isMade i && r.table.columnAffinity i == .real then
      match v.wholly with
      | .integer n => if -(Int.pow 2 47) ≤ n ∧ n < Int.pow 2 47 then .integer n else v
      | _ => v
    else v

/-- What becomes of a row that meets the conditions. -/
def takeRow (s : Selection) (plan : Plan) (row : Row) (p : Progression) :
    Look (Series.Step Progression) := do
  if plan.inOrder = s.order.length then
    let values ← r.values row s.columns
    let p := { p with done := p.done ++ [values], left := p.left - 1 }
    return if p.left = 0 then .enough p else .next p
  else if plan.inOrder = 0 then
    let rank ← r.values row s.order
    if r.isWanted s.order p rank then
      let values ← r.values row s.columns
      return .next (r.keep s.order p { rank, values := r.sortedValues s.columns values })
    else return .next p
  else
    let rank ← r.values row s.order
    let values ← r.values row s.columns
    let alike := rank.take plan.inOrder
    let isSame := p.alike.all fun other => r.rankBy s.order alike other == .eq
    let p := if isSame then p else endBlock p
    if p.left = 0 then return .enough p
    let p := { p with alike := some alike }
    let c : Candidate := { rank, values := r.sortedValues s.columns values }
    return .next (if r.isWanted s.order p rank then r.keep s.order p c else p)

/-- What is met on the way of a plan, when the last search has ended somewhere; none for damage. -/
def visits (plan : Plan) : Series (Option Cursor → Option Meeting) :=
  match plan.index with
  | some ix => (r.records ix plan.backward).mapM fun p => some (r.rowAlong? ix plan.covers p)
  | none =>
    (r.ownEntries plan.backward).mapM fun e => some fun from? =>
      some { row := some (r.rowOf e), from? }

/-- What becomes of what is met on the way. -/
def step (s : Selection) (plan : Plan) (p : Progression) (visit : Option Cursor → Option Meeting) :
    Series.Step Progression :=
  match visit p.lookedUp with
  | none => .broken
  | some { row := none, from? } => .next { p with lookedUp := from? }
  | some { row := some row, from? } =>
    let steps : Look (Series.Step Progression) := do
      if ← r.meetsAll row s.conditions then r.takeRow s plan row p else return .next p
    match steps false with
    | none => .broken
    | some (.next p, lookedUp) =>
      .next { p with lookedUp := if lookedUp then row.stored.get else from? }
    | some (done, _) => done

/-- The rows that a selection lists; none if it comes to damage, or cannot be answered. -/
def answer? (s : Selection) : Option (List (List Value)) := do
  if !r.table.canAnswer s then none
  if r.table.keyless && !(r.table.primary?.any Table.isKnown) then none
  let plan ← r.table.plan? s
  let p ← Series.run (r.step s plan) { left := s.limit } (r.visits plan)
  return (endBlock p).done

/-- How many rows there are; none for damage. -/
def count? : Option Nat :=
  match r.table.countingIndex? with
  | some ix => if Table.isKnown ix then (r.records ix false).length? else none
  | none => (r.pages.entries true r.table.root false).length?

end Relation

end Database

end InFlight
