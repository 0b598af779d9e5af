import InFlight.Database.Query.Cost
import InFlight.Database.Query.Selection

/-!
# Plans

The rows of a table can be gone through in the tree of the table or along one of its indexes.  An
index may hold all that is asked for, so that the rows themselves are not needed; and it may put
the rows into order, so that fewer of them have to be sorted.  Of all ways the one with the least
cost is taken.

The costs follow from how much room rows and entries of indexes are likely to take, as the types
of the columns tell.  How many rows there are is not looked at.

Plans matter where an index does not agree with its table.

## Main definitions

* `InFlight.Database.Path` — a way through the rows of a table.
* `InFlight.Database.Plan`, `InFlight.Database.Table.plan?` — the way that a selection takes.
* `InFlight.Database.Table.countingIndex?` — the index by which rows are counted.
-/

set_option relaxedAutoImplicit false
set_option autoImplicit false

namespace InFlight

namespace Database

namespace Table

variable (t : Table)

/-! ## Room -/

/-- How much room a row takes, in integers. -/
def width : Nat :=
  t.columns.foldl (fun n c => n + c.type.width) 0 + if t.keyColumn.isNone then 1 else 0

/-- How much room an entry of an index takes, in integers. -/
def indexWidth (ix : Index) : Nat :=
  let widths := ix.held.map fun part =>
    match part.source with
    | .column i => (t.columns[i]?.map fun c => c.type.width).getD 1
    | _ => 1
  widths.foldl (fun n width => n + width) 0

/-- The cost of room for so many integers. -/
def roomCost (width : Nat) : Cost := .ofCount (4 * width)

/-! ## Indexes -/

/-- The collations of an index are known. -/
def isKnown (ix : Index) : Bool := ix.held.all fun part => (Collation.ofName? part.collation).isSome

/-- The index holds the rows themselves. -/
def isOwn (ix : Index) : Bool := t.keyless && ix.isPrimary

/-- From this number on columns are not told from each other. -/
def manyColumns : Nat := 63

/-- The index holds the values of a column. -/
def holds (ix : Index) (i : Nat) : Bool := (ix.position? (.column i)).isSome

/-- The column is made when it is read. -/
def isMade (i : Nat) : Bool := (t.making? i).isSome

/-- The index holds all that columns need; a column that is made from others may need any. -/
def covers (ix : Index) (used : List Nat) : Bool :=
  let named := used.filter fun i => t.keyColumn != some i
  let isGenerated (i : Nat) : Bool := t.columns[i]?.any fun c => c.generated.isSome
  let needed := if named.any isGenerated then List.range t.columns.length else named
  let lacking := needed.any fun i => decide (i < manyColumns) && !holds ix i
  let beyond := needed.any fun i => decide (manyColumns ≤ i)
  let hasExpr := ix.held.any fun part => part.source == .expr
  let holdsMade := (List.range t.columns.length).any fun i => t.isMade i && holds ix i
  let holdsFar := (List.range t.columns.length).any fun i =>
    decide (manyColumns ≤ i) && holds ix i
  if t.isOwn ix then true
  else if !lacking && !beyond then true
  else
    ((hasExpr && !holdsMade) || (!lacking && (hasExpr || holdsMade || holdsFar))) &&
      named.all (holds ix)

/-- The index holds all that a condition needs. -/
def holdsCondition (ix : Index) (c : Condition) : Bool :=
  t.keyColumn == some c.column || holds ix c.column

end Table

/-! ## Ways -/

/-- A way through the rows of a table: in its own tree or along an index, which may hold all that is
asked for; whether the order that is asked for may gain from it; and its cost. -/
structure Path where
  index : Option Index := none
  covers : Bool := true
  helps : Bool := true
  cost : Cost

namespace Table

variable (t : Table)

/-- How many rows a table is taken to have, as a cost. -/
def rowsCost : Cost := 200

/-- How much three times as many steps cost. -/
def tripleCost : Cost := 16

/-- The order that is asked for may gain from an index. -/
def helps (ix : Index) (order : List Nat) : Bool :=
  order.any fun i => t.keyColumn == some i || ix.parts.any fun part => part.source == .column i

/-- The way along an index. -/
def pathAlong (s : Selection) (ix : Index) : Path :=
  let covers := t.covers ix s.used
  let own := rowsCost + 1 + 15 * roomCost (t.indexWidth ix) / roomCost t.width
  let spared := (s.conditions.takeWhile (t.holdsCondition ix)).length
  { index := some ix, covers, helps := t.helps ix s.order
    cost := if covers then own else own.plus (rowsCost + tripleCost - spared) }

/-- A way is worth to be looked at. -/
def isWorth (p : Path) : Bool :=
  p.helps || t.keyless ||
    (p.covers && p.index.any fun ix => decide (roomCost (t.indexWidth ix) < roomCost t.width))

/-- Ways with one more; of those from which the order gains nothing only the best one is kept. -/
def withPath (ps : List Path) (p : Path) : List Path :=
  match ps.find? fun q => !q.helps with
  | some q =>
    if p.helps then ps ++ [p]
    else if q.cost ≤ p.cost then ps
    else ps.map fun q => if q.helps then q else p
  | none => ps ++ [p]

/-- All ways that are looked at. -/
def paths (s : Selection) : List Path :=
  let own : List Path :=
    if t.keyless then []
    else
      let helps := s.order.any fun i => t.keyColumn == some i
      [{ helps, cost := rowsCost + tripleCost }]
  let along := (t.indexes.filter fun ix => !ix.isPartial && isKnown ix).map (t.pathAlong s)
  (own ++ along.filter t.isWorth).foldl withPath []

/-! ## Order -/

/-- How far rows are in order: by how many columns, whether they are met from the last one on if that
matters, and whether no two rows can be alike in what they are in order by. -/
structure Progress where
  count : Nat := 0
  backward : Option Bool := none
  distinct : Bool := true

/-- How far parts that rows are sorted by bring the order that is asked for. -/
def progress (order : List Nat) (lead : Nat) : Progress → List Part → Progress
  | p, [] => p
  | p, part :: parts =>
    let isKey (i : Nat) : Bool := t.keyColumn == some i
    let atKey := match part.source with
      | .key => true
      | .column i => isKey i
      | .expr => false
    let present := match part.source with
      | .key => true
      | .column i => isKey i || t.columns[i]?.any Column.notNull
      | .expr => false
    let distinct := p.distinct && present
    let isNext := (order[p.count]?).any fun i =>
      (atKey && isKey i) ||
        (!atKey && part.source == .column i &&
          Sql.sameName ((t.columnCollation? i).getD "BINARY") part.collation)
    let backward := p.backward.getD (!part.backward)
    if isNext && backward == !part.backward then
      let p : Progress := { count := p.count + 1, backward := some backward, distinct }
      if atKey then { p with count := order.length } else progress order (lead - 1) p parts
    else { p with distinct := distinct && lead == 0 && p.count != 0 }

/-- By how many columns the rows on a way are in order, and whether they are met from the last one
on. -/
def inOrder (order : List Nat) (p : Path) : Nat × Bool :=
  let (unique, lead, parts) : Bool × Nat × List Part := match p.index with
    | some ix => (ix.unique.isSome, ix.parts.length, ix.held)
    | none => (true, 0, [{ source := .key }])
  let done := t.progress order lead { distinct := unique } parts
  (if done.distinct then order.length else done.count, done.backward.getD false)

end Table

/-! ## Choosing -/

/-- A way that was chosen: along which index, if along one; whether this holds all that is asked
for; by how many columns the rows are in order, and whether they are met from the last one on. -/
structure Plan where
  index : Option Index
  covers : Bool
  inOrder : Nat
  backward : Bool

namespace Table

variable (t : Table)

/-- The cost of sorting rows that are in order by so many of the columns that are asked for. -/
def sortingCost (order inOrder : Nat) : Cost :=
  let rows := rowsCost - 2
  let share : Cost := if inOrder = 0 then 0 else .ofCount ((order - inOrder) * 100 / order) - 66
  rows + .ofCount 2 + share + .ofSteps rows

/-- The cost of a way for an order with sorting, and without; no sorting is a little better. -/
def pathCost (order : List Nat) (p : Path) : Cost × Cost :=
  let (count, _) := t.inOrder order p
  if count < order.length then (p.cost.plus (sortingCost order.length count) + 3, p.cost)
  else (p.cost, p.cost - 2)

/-- One of two ways is better than the other. -/
def isBetter (order : List Nat) (p q : Path) : Bool :=
  let (a, b) := (t.pathCost order p, t.pathCost order q)
  decide (a.1 < b.1 ∨ (a.1 = b.1 ∧ a.2 < b.2))

/-- The best of ways; of those that are equally good the first one. -/
def best? (order : List Nat) : List Path → Option Path
  | [] => none
  | p :: ps => some (ps.foldl (fun best q => if t.isBetter order q best then q else best) p)

/-- The way that a selection takes. -/
def plan? (s : Selection) : Option Plan :=
  (t.best? s.order (t.paths s)).map fun p =>
    let (inOrder, backward) := t.inOrder s.order p
    { index := p.index.filter fun ix => !t.isOwn ix, covers := p.covers, inOrder, backward }

/-- There is a way as soon as one has been looked at. -/
theorem withPath_ne_nil (ps : List Path) (p : Path) : withPath ps p ≠ [] := by
  unfold withPath
  split
  · rename_i q h
    have hq : ps ≠ [] := by
      rintro rfl
      simp at h
    split
    · simp
    · split
      · exact hq
      · simpa using hq
  · simp

/-- The index by which rows are counted, if there is one that takes less room than the table. -/
def countingIndex? : Option Index :=
  let room (ix : Index) : Cost := roomCost (t.indexWidth ix)
  t.indexes.foldl
    (fun best ix =>
      if !ix.isPartial && decide (room ix < roomCost t.width) &&
          best.all (fun other => decide (room ix < room other)) then some ix
      else best)
    (if t.keyless then t.primary? else none)

end Table

end Database

end InFlight
