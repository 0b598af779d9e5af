import InFlight.Database.Sql.Token

/-!
# Expressions of statements

An expression is a literal, the name of a column, a parameter or a query, or an operation on other
expressions.  Of a query only what it refers to is kept.

## Main definitions

* `InFlight.Database.Sql.Name` — a name, and whether it could be a string as well.
* `InFlight.Database.Sql.Op`, `InFlight.Database.Sql.Expr` — operations and expressions.
* `InFlight.Database.Sql.Scope` — what a query refers to.
* `InFlight.Database.Sql.Expr.scope` — what the queries within an expression refer to.
-/

set_option relaxedAutoImplicit false
set_option autoImplicit false

namespace InFlight

namespace Database

namespace Sql

/-! ## Names -/

/-- Which quotation marks a name stands in. -/
inductive Marks where
  | bare
  | double
  | other
deriving DecidableEq, Repr

/-- A name as it was written. -/
structure Name where
  text : String
  marks : Marks := .bare
deriving DecidableEq, Repr

/-- Two names are the same but for the case of letters. -/
def sameName (a b : String) : Bool := a.toLower == b.toLower

/-! ## What a query refers to -/

/-- The databases that tables are qualified with, and whether there are parameters. -/
structure Scope where
  databases : List String := []
  parameters : Bool := false
deriving DecidableEq, Repr

namespace Scope

/-- What two parts of a query refer to. -/
def and (a b : Scope) : Scope :=
  { databases := a.databases ++ b.databases, parameters := a.parameters || b.parameters }

/-- What many parts of a query refer to. -/
def all (scopes : List Scope) : Scope := scopes.foldl Scope.and {}

end Scope

/-! ## Expressions -/

/-- A value that is written out. -/
inductive Literal where
  | null
  | number (text : List Char)
  | string (content : List Char)
  | blob (digits : List Char)
  /-- The time of the day, the day, or both. -/
  | now (word : String)
deriving DecidableEq, Repr

/-- The ways to compare two values. -/
inductive Comparison where
  | eq
  | ne
  | lt
  | le
  | gt
  | ge
deriving DecidableEq, Repr

/-- The operations on two numbers. -/
inductive Arithmetic where
  | add
  | subtract
  | multiply
  | divide
  | remainder
  | bitAnd
  | bitOr
  | shiftLeft
  | shiftRight
deriving DecidableEq, Repr

/-- How a function is called: with a star in place of arguments, over a part of the rows, over the
rows that meet a condition, or over rows in some order; and what all that refers to. -/
structure Call where
  function : String
  star : Bool := false
  windowed : Bool := false
  filtered : Bool := false
  sorted : Bool := false
  beside : Scope := {}
deriving DecidableEq, Repr

/-- An operation on expressions. -/
inductive Op where
  | or
  | and
  | not
  | comparison (c : Comparison)
  /-- Whether two values are the same, where nothing is the same as nothing. -/
  | same (negated : Bool)
  | arithmetic (a : Arithmetic)
  | join
  /-- The extraction of a part of a value. -/
  | extract (mark : String)
  | like (word : String) (negated : Bool)
  | isNull (negated : Bool)
  | between (negated : Bool)
  | among (negated : Bool)
  | negate
  | plus
  | bitNot
  | collate (name : String)
  | cast (type : String)
  /-- The alternatives, and what is left over; behind an operand that they are compared with. -/
  | choose (operand rest : Bool)
  | call (c : Call)
  | vector
  | raise
deriving DecidableEq, Repr

/-- An expression; the arguments of an operation stand in the order in which they are written. -/
inductive Expr where
  | literal (l : Literal)
  | name (parts : List Name)
  | parameter
  | query (scope : Scope)
  | node (op : Op) (args : List Expr)
deriving Repr

namespace Expr

/-- How deep an expression is nested. -/
def height : Expr → Nat
  | node _ args => (args.attach.map fun ⟨e, _⟩ => e.height).foldl max 0 + 1
  | _ => 1

/-- What the queries within an expression refer to. -/
def scope : Expr → Scope
  | parameter => { parameters := true }
  | query scope => scope
  | node op args =>
    let within := Scope.all (args.attach.map fun ⟨e, _⟩ => e.scope)
    match op with
    | .call c => c.beside.and within
    | _ => within
  | _ => {}

/-- An expression without the collations around it. -/
def bare : Expr → Expr
  | node (.collate _) [e] => e.bare
  | e => e

end Expr

end Sql

end Database

end InFlight
