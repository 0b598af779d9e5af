import InFlight.Database.Query.Call
import InFlight.Database.Query.Literal

/-!
# Values of expressions

A column that is made from others has the value of an expression about its row.  An expression is
evaluated where the values of the columns are; it fails where one of these is damaged, and where a
function fails.

Two values are compared under the affinities of the expressions that they come from, and by the
collation of one of them: one that is given comes first, then that of the column on the left.

Expressions that refer to functions and collations that are not known cannot be evaluated for any
row, nor can columns that are made from themselves.

## Main definitions

* `InFlight.Database.Table.affinityOf?`, `InFlight.Database.Table.collationOf?` — what an
  expression brings to a comparison.
* `InFlight.Database.Surroundings`, `InFlight.Database.Surroundings.evaluate?` — evaluating.
* `InFlight.Database.Table.canMake` — the values of a column can be told.
-/

set_option relaxedAutoImplicit false
set_option autoImplicit false

namespace InFlight

namespace Database

open Sql (Expr)

/-! ## What expressions bring to a comparison -/

/-- A collation is given somewhere within an expression. -/
def Sql.Expr.isCollated : Expr → Bool
  | .node (.collate _) _ => true
  | .node _ args => args.attach.any fun ⟨e, _⟩ => e.isCollated
  | _ => false

/-- A comparison holds of two values in an order. -/
def Sql.Comparison.holds (c : Sql.Comparison) (o : Ordering) : Bool :=
  match c with
  | .eq => o == .eq
  | .ne => o != .eq
  | .lt => o == .lt
  | .le => o != .gt
  | .gt => o == .gt
  | .ge => o != .lt

namespace Table

variable (t : Table)

/-- What a name in a column that is made from others stands for. -/
def named? (e : Expr) : Option Meaning :=
  match e with
  | .name parts => t.meaning? .column parts
  | _ => none

/-- The affinity of a column; the key is an integer. -/
def columnAffinity (i : Nat) : Affinity :=
  if t.keyColumn = some i then .integer else (t.columns[i]?.map Column.affinity).getD .blob

/-- The name of the collation of a column; the key has none. -/
def columnCollation? (i : Nat) : Option String :=
  if t.keyColumn = some i then none else t.columns[i]?.map Column.collation

/-- The affinity of an expression. -/
def affinityOf? : Expr → Option Affinity
  | .name parts =>
    match t.meaning? .column parts with
    | some (.column i) => some (t.columnAffinity i)
    | _ => none
  | .node (.cast type) _ => some (.ofType type)
  | .node (.collate _) [e] => affinityOf? e
  | .node .vector (e :: _) => affinityOf? e
  | _ => none

/-- The name of the collation of an expression. -/
def collationOf? : Expr → Option String
  | .name parts =>
    match t.meaning? .column parts with
    | some (.column i) => t.columnCollation? i
    | _ => none
  | .node (.collate c) _ => some c
  | .node (.cast _) [e] => collationOf? e
  | .node .plus [e] => collationOf? e
  | .node .vector (e :: _) => collationOf? e
  | .node _ args =>
    (args.attach.find? fun ⟨e, _⟩ => e.isCollated).bind fun ⟨e, _⟩ => collationOf? e
  | _ => none

/-- The affinity under which the values of two expressions are compared. -/
def affinityFor (a b : Expr) : Affinity :=
  match t.affinityOf? a, t.affinityOf? b with
  | some x, some y => if x.isNumeric || y.isNumeric then .numeric else .blob
  | some x, none => x
  | none, some y => y
  | none, none => .blob

/-- The collation of a name, if it is known; byte by byte where no name is given. -/
def collationNamed? (name : Option String) : Option Collation :=
  Collation.ofName? (name.getD "BINARY")

/-- The collation by which the values of two expressions are compared, if it is known. -/
def collationFor? (a b : Expr) : Option Collation :=
  collationNamed?
    (if a.isCollated then t.collationOf? a
    else if b.isCollated then t.collationOf? b
    else (t.collationOf? a).orElse fun _ => t.collationOf? b)

/-- The collation by which a function compares its arguments, if it is known. -/
def collationAmong? (args : List Expr) : Option Collation :=
  collationNamed? (args.findSome? t.collationOf?)

/-- The value of an expression is never taken to be nothing. -/
def isPresent : Expr → Bool
  | .literal (.number _) => true
  | .literal (.string _) => true
  | .literal (.blob _) => true
  | .name parts =>
    match t.meaning? .column parts with
    | some (.column i) => t.keyColumn == some i || t.columns[i]?.any Column.notNull
    | _ => false
  | .node .plus [e] => isPresent e
  | .node .negate [e] => isPresent e
  | _ => false

/-- The truth that an expression is written as. -/
def truthIn? (e : Expr) : Option Bool :=
  match t.named? e.bare with
  | some (.truth b) => some b
  | _ => none

end Table

/-! ## Evaluating -/

/-- What expressions about a row are evaluated with: its table, how its texts are written, and the
values of its columns, where they are not damaged. -/
structure Surroundings where
  table : Table
  form : TextForm
  value? : Nat → Option Value

namespace Surroundings

open Value (null integer ofTruth)

variable (s : Surroundings)

/-- The order of two values that come from two expressions. -/
def order? (a b : Expr) (v w : Value) : Option Ordering := do
  let c ← s.table.collationFor? a b
  let (v, w) := (s.table.affinityFor a b).level s.form v w
  return v.compare s.form c w

/-- Whether a comparison holds; with nothing it neither does nor does not. -/
def test? (c : Sql.Comparison) (a b : Expr) (v w : Value) : Option (Option Bool) := do
  let o ← s.order? a b v w
  return if v.isNull || w.isNull then none else some (c.holds o)

/-- A truth, or its opposite. -/
def negated (negated : Bool) (t : Option Bool) : Value := ofTruth (if negated then t.map not else t)

/-- Whether two values are the same. -/
def same? (a b : Expr) (v w : Value) : Option Bool := do
  let o ← s.order? a b v w
  return if v.isNull || w.isNull then v.isNull && w.isNull else o == .eq

/-- Whether a value is one of others; nothing among these may be the value. -/
def among? (e : Expr) (v : Value) (others : List Value) : Option (Option Bool) := do
  let c ← Table.collationNamed? (s.table.collationOf? e)
  let a := (s.table.affinityOf? e).getD .blob
  let met := others.any fun w =>
    let (v, w) := a.level s.form v w
    !w.isNull && v.compare s.form c w == .eq
  return if others.isEmpty then some false
    else if v.isNull then none
    else if met then some true
    else if others.any Value.isNull then none
    else some false

/-- The first value that is not nothing; those behind it do not matter. -/
def firstPresent? : List (Option Value) → Option Value
  | [] => some null
  | none :: _ => none
  | some v :: vs => if v.isNull then firstPresent? vs else some v

/-- The alternative whose condition is true, or is the operand if there is one. -/
def choose? (operand : Option (Expr × Value)) : List (Expr × Option Value) → Option Value
  | (e, condition) :: (_, v) :: rest => do
    let w ← condition
    let met ← match operand with
      | some (operand, u) => s.test? .eq operand e u w
      | none => some (w.truth? s.form)
    if met = some true then v else choose? operand rest
  | [(_, v)] => v
  | [] => some null

/-- What a function gives; some functions leave out arguments that they do not need. -/
def called? (name : String) (args : List Expr) (vs : List (Option Value)) : Option Value :=
  match name.toLower, vs with
  | "coalesce", vs | "ifnull", vs => firstPresent? vs
  | "iif", [condition, yes, no] => do
    if (← condition).truth? s.form = some true then yes else no
  | name, vs => do call? s.form (← s.table.collationAmong? args) name (← vs.mapM id)

/-- What an operation on values gives that are all there. -/
def applied? (op : Sql.Op) (args : List Expr) (vs : List Value) : Option Value :=
  match op, args, vs with
  | .or, _, [v, w] => some (ofTruth (Value.either (v.truth? s.form) (w.truth? s.form)))
  | .and, _, [v, w] => some (ofTruth (Value.both (v.truth? s.form) (w.truth? s.form)))
  | .not, _, [v] => some (ofTruth ((v.truth? s.form).map not))
  | .comparison c, [a, b], [v, w] => (s.test? c a b v w).map ofTruth
  | .same negated, [a, b], [v, w] =>
    match s.table.truthIn? b with
    | some t => some (ofTruth (some ((v.truth? s.form == some t) != negated)))
    | none => (s.same? a b v w).map fun same => ofTruth (some (same != negated))
  | .arithmetic op, _, [v, w] => some (Value.arithmetic s.form op v w)
  | .join, _, [v, w] => some (Value.join s.form v w)
  | .isNull negated, _, [v] => some (ofTruth (some (v.isNull != negated)))
  | .between negate, [e, low, high], [v, v1, v2] => do
    let above ← s.test? .ge e low v v1
    let below ← s.test? .le e high v v2
    return negated negate (Value.both above below)
  | .among negate, e :: _, v :: vs => (s.among? e v vs).map (negated negate)
  | .negate, _, [v] => some (Value.arithmetic s.form .subtract (integer 0) v)
  | .plus, _, [v] => some v
  | .bitNot, _, [v] => some (Value.bitNot s.form v)
  | .collate _, _, [v] => some v
  | .cast type, _, [v] => some (v.cast s.form (.ofType type))
  | _, _, _ => none

/-- What an operation gives. -/
def operate? (op : Sql.Op) (args : List Expr) (vs : List (Option Value)) : Option Value :=
  match op, args, vs with
  | .negate, [.literal (.number text)], _ => Value.ofNumber? true text
  | .isNull negated, [e], [v] =>
    if s.table.isPresent e then some (ofTruth (some negated)) else do s.applied? op args [← v]
  | .call c, args, vs => s.called? c.function args vs
  | .like word negate, _ :: _, v :: pattern :: rest => do
    let v ← s.called? word args (pattern :: v :: rest)
    return negated negate (v.truth? s.form)
  | .choose true _, operand :: args, v :: vs => do s.choose? (some (operand, ← v)) (args.zip vs)
  | .choose false _, args, vs => s.choose? none (args.zip vs)
  | op, args, vs => do s.applied? op args (← vs.mapM id)

/-- The value of an expression; none where it fails. -/
def evaluate? : Expr → Option Value
  | .literal l => Value.ofLiteral? s.form l
  | .name parts =>
    match s.table.meaning? .column parts with
    | some (.column i) => s.value? i
    | some (.text content) => some (Value.ofChars s.form content.toList)
    | some (.truth b) => some (ofTruth (some b))
    | _ => none
  | .parameter => none
  | .query _ => none
  | .node op args => s.operate? op args (args.attach.map fun ⟨e, _⟩ => evaluate? e)

end Surroundings

/-! ## Values that can be told -/

namespace Table

variable (t : Table)

/-- An operation on expressions can be evaluated, where these can. -/
def canApply (op : Sql.Op) (args : List Expr) : Bool :=
  let comparable (a b : Expr) : Bool := (t.collationFor? a b).isSome
  let known (name : String) : Bool := (Function.find? name args.length).isSome
  match op, args with
  | .comparison _, [a, b] => comparable a b && width a == 1
  | .same _, [a, b] => (t.truthIn? b).isSome || (comparable a b && width a == 1)
  | .between _, [e, low, high] => comparable e low && comparable e high
  | .among _, e :: _ => (collationNamed? (t.collationOf? e)).isSome
  | .choose true _, operand :: args => args.all fun e => comparable operand e
  | .like word _, _ => known word
  | .call c, args =>
    known c.function &&
      (["max", "min", "nullif"].all fun name => !Sql.sameName name c.function ||
        (t.collationAmong? args).isSome)
  | .extract mark, _ => known mark
  | .vector, _ => false
  | .raise, _ => false
  | _, _ => true

/-- An expression can be evaluated. -/
def canEvaluate : Expr → Bool
  | .literal l => (Value.ofLiteral? .utf8 l).isSome
  | .name _ => true
  | .parameter => false
  | .query _ => false
  | .node op args => (args.attach.all fun ⟨e, _⟩ => canEvaluate e) && t.canApply op args

/-- The columns whose values an expression needs. -/
def columnsIn : Expr → List Nat
  | .node (.isNull _) [e] => if t.isPresent e then [] else columnsIn e
  | .name parts =>
    match t.meaning? .column parts with
    | some (.column i) => [i]
    | _ => []
  | .node _ args => args.attach.flatMap fun ⟨e, _⟩ => columnsIn e
  | _ => []

/-- The expression that a column is made with when it is read. -/
def making? (i : Nat) : Option Expr :=
  t.columns[i]?.bind fun c => if c.isVirtual then c.generated.map Prod.fst else none

/-- The affinity that an index must have to hold the values of an expression that a column is made
with; that of the column, unless the expression has one of its own. -/
def makingAffinity (i : Nat) : Expr → Affinity
  | .node (.cast type) _ => .ofType type
  | .node (.collate _) [e] => (t.affinityOf? e).getD .blob
  | _ => t.columnAffinity i

/-- The values of a column that is made from others can be taken from an index. -/
def canTake (i : Nat) (e : Expr) : Bool :=
  let a := t.columnAffinity i
  let b := t.makingAffinity i e
  !(t.columnsIn e).isEmpty && (a == b || (a.isNumeric && b.isNumeric))

/-- The values of a column can be told, when columns may be made from others so many times. -/
def canMake : Nat → Nat → Bool
  | 0, _ => false
  | left + 1, i =>
    match t.making? i with
    | some e => t.canEvaluate e && (t.columnsIn e).all (canMake left)
    | none => true

end Table

end Database

end InFlight
