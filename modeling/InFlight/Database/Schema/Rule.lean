import InFlight.Database.Schema.Function
import InFlight.Database.Schema.Table

/-!
# Expressions in rules

The rules of a table and its indexes hold expressions about one row.  The names in them must be
those of columns.  The key of the row has names as well where what the expression says is not
stored, and a name in double quotation marks that names nothing is a string.  Queries, parameters
and functions of many rows are out of place, and so are functions with another value each time
where a value is stored.

The value of a column that is not given must not depend on a row at all.

## Main definitions

* `InFlight.Database.RuleKind` — what an expression is for.
* `InFlight.Database.Table.meaning?` — what a name stands for.
* `InFlight.Database.Table.admits` — an expression is in its place.
* `InFlight.Database.Sql.Expr.isConstant` — an expression that depends on no row.
-/

set_option relaxedAutoImplicit false
set_option autoImplicit false

namespace InFlight

namespace Database

open Sql (Expr Name sameName)

/-! ## Names -/

/-- What an expression is for: a check of rows, the condition of an index, a part of an index, or
a column that is made from others. -/
inductive RuleKind where
  | check
  | condition
  | index
  | column
deriving DecidableEq, Repr

/-- What a name stands for. -/
inductive Meaning where
  | column (i : Nat)
  | key
  | text (content : String)
  | truth (b : Bool)
deriving DecidableEq, Repr

/-- The truth that a name without quotation marks is. -/
def truthOf? (n : Name) : Option Bool :=
  if n.marks ≠ .bare then none
  else if sameName n.text "true" then some true
  else if sameName n.text "false" then some false
  else none

namespace Table

/-- The column of a name, or the key where it has names. -/
def place? (t : Table) (kind : RuleKind) (name : String) : Option Meaning :=
  match t.column? name with
  | some i => some (.column i)
  | none =>
    if isKeyName name && !t.keyless && (kind == .check || kind == .condition) then some .key
    else none

/-- What a name stands for; the name of a table before it must be that of the table. -/
def meaning? (t : Table) (kind : RuleKind) (parts : List Name) : Option Meaning :=
  let ofTable (table column : Name) : Option Meaning :=
    if kind = .index ∨ kind = .column ∨ sameName table.text t.name = false then none
    else t.place? kind column.text
  match parts with
  | [n] =>
    match t.place? kind n.text with
    | some m => some m
    | none => if n.marks = .double then some (.text n.text) else (truthOf? n).map .truth
  | [table, column] => ofTable table column
  | [_, table, column] => ofTable table column
  | _ => none

end Table

/-! ## Expressions -/

/-- How many values an expression has. -/
def width : Expr → Nat
  | .node .vector args => args.length
  | _ => 1

/-- An expression is a number with a point or an exponent, and at most one. -/
def isShare : Expr → Bool
  | .literal (.number text) =>
    (text.any fun c => c == '.' || c == 'e' || c == 'E') && !(text.take 2 == ['0', 'x']) &&
      (Numeral.leadingReal text).compareInt 1 != .gt
  | _ => false

/-- A function may be called with some arguments in an expression. -/
def admitsFunction (kind : RuleKind) (name : String) (args : List Expr) : Bool :=
  match Function.find? name args.length with
  | some f =>
    match f.kind with
    | .gathering => false
    | .changing => kind == .check
    | .steady => !sameName name "likelihood" || args[1]?.any isShare
  | none => (Function.named name).isEmpty

/-- An operation is in its place between some arguments. -/
def admitsOp (kind : RuleKind) (op : Sql.Op) (args : List Expr) : Bool :=
  match op, args with
  | .comparison _, [a, b] | .same _, [a, b] => width a == width b
  | .between _, [a, b, c] => width a == width b && width a == width c
  | .like word _, args => admitsFunction kind word args
  | .call c, args =>
    !c.windowed && !c.filtered && !c.sorted && admitsFunction kind c.function args
  | _, _ => true

/-- An expression is in its place in a rule of a table. -/
def Table.admits (t : Table) (kind : RuleKind) : Expr → Bool
  | .literal (.now _) => kind == .check
  | .literal _ => true
  | .name parts => (t.meaning? kind parts).isSome
  | .parameter => false
  | .query _ => false
  | .node op args =>
    (args.attach.all fun ⟨e, _⟩ => t.admits kind e) && admitsOp kind op args

namespace Sql

/-- An expression that depends on no row. -/
def Expr.isConstant : Expr → Bool
  | .literal _ => true
  | .name [n] => (truthOf? n).isSome
  | .name _ => false
  | .parameter => true
  | .query _ => false
  | .node op args =>
    (args.attach.all fun ⟨e, _⟩ => e.isConstant) &&
      match op with
      | .call c => !c.windowed && !c.filtered
      | .raise => false
      | _ => true

end Sql

end Database

end InFlight
