import InFlight.Database.Sql.Grammar

/-!
# Statements

A statement makes a table, an index, a view, a trigger, or a table of a module.  The definition of
a table lists columns, each with a type and rules, and then rules for the table as a whole.  Of
views and triggers only what they refer to is kept.

A statement ends at the first semicolon that is not part of it; what follows is not looked at.

## Main definitions

* `InFlight.Database.Sql.ColumnRule`, `InFlight.Database.Sql.TableRule` — rules of a table.
* `InFlight.Database.Sql.TableDefinition` — the definition of a table.
* `InFlight.Database.Sql.Statement`, `InFlight.Database.Sql.Statement.ofText?` — a statement.
-/

set_option relaxedAutoImplicit false
set_option autoImplicit false

namespace InFlight

namespace Database

namespace Sql

open Reading

/-! ## Definitions -/

/-- What happens to a row that breaks a rule, where that is said. -/
inductive Resolution where
  | unstated
  | rollback
  | abort
  | fail
  | ignore
  | replace
deriving DecidableEq, Repr

/-- An expression that rows are sorted by. -/
structure Term where
  expr : Expr
  backward : Bool := false
  /-- It is said where nothing is put. -/
  placesNull : Bool := false

/-- A rule for a column. -/
inductive ColumnRule where
  | default (e : Expr)
  | notNull (r : Resolution)
  | primaryKey (backward counting : Bool) (r : Resolution)
  | unique (r : Resolution)
  | check (e : Expr)
  /-- The column refers to a column of another table, of which as many are named. -/
  | references (columns : Option (List String))
  | collate (name : String)
  | generated (e : Expr) (stored : Bool)
  /-- A rule that changes nothing. -/
  | idle

/-- The definition of a column. -/
structure ColumnDefinition where
  name : String
  type : String
  rules : List ColumnRule

/-- A rule for a table. -/
inductive TableRule where
  | primaryKey (terms : List Term) (counting : Bool) (r : Resolution)
  | unique (terms : List Term) (r : Resolution)
  | check (e : Expr)
  /-- Columns refer to columns of another table. -/
  | foreignKey (columns : List String) (targets : Option (List String))
  | idle

/-- The definition of a table. -/
structure TableDefinition where
  columns : List ColumnDefinition
  rules : List TableRule := []
  /-- The rows have no keys of their own. -/
  keyless : Bool := false
  /-- The types of the columns bind. -/
  strict : Bool := false

/-- The definition of an index. -/
structure IndexDefinition where
  table : String
  terms : List Term
  unique : Bool
  condition : Option Expr

/-- What a statement makes. -/
inductive Making where
  | table (definition : TableDefinition)
  | index (definition : IndexDefinition)
  | view (scope : Scope)
  /-- A trigger of a table; it may stand in for what is done to a view. -/
  | trigger (table : String) (instead : Bool) (scope : Scope)
  /-- A table that a module makes up. -/
  | module

/-- A statement: what it makes, under which name, and whether that may be there already. -/
structure Statement where
  name : String
  /-- The name of a database stands before the name. -/
  qualified : Bool
  /-- What is made is not kept. -/
  temporary : Bool
  /-- What is there already stays. -/
  unlessThere : Bool
  making : Making

/-! ## Rules -/

/-- An expression that is not nested too deep. -/
def sound (e : Expr) : Reading Expr := do
  if Grammar.maxHeight < e.height then failure else return e

/-- What happens to a row that breaks a rule, behind the words that announce it. -/
def resolutionOf : Reading Resolution := do
  match ← oneWord ["rollback", "abort", "fail", "ignore", "replace"] with
  | "rollback" => return .rollback
  | "abort" => return .abort
  | "fail" => return .fail
  | "ignore" => return .ignore
  | _ => return .replace

/-- What happens to a row that breaks a rule. -/
def resolution : Reading Resolution := do
  if ← word? "on" then
    word "conflict"
    resolutionOf
  else return .unstated

/-- What happens when what a row refers to goes away or changes. -/
def reaction : Reading Unit := do
  match ← oneWord ["set", "cascade", "restrict", "no"] with
  | "set" =>
    let _ ← oneWord ["null", "default"]
  | "no" => word "action"
  | _ => pure ()

/-- How a row refers to another one. -/
def reference? : Reading (Option Unit) := do
  if ← word? "match" then
    let _ ← name
    return some ()
  else if ← word? "on" then
    let _ ← oneWord ["insert", "delete", "update"]
    reaction
    return some ()
  else return none

/-- When it is looked whether a row refers to another one, behind the word for it. -/
def deferral : Reading Unit := do
  if ← word? "initially" then
    let _ ← oneWord ["deferred", "immediate"]

/-- The columns that are referred to, where they are named. -/
def targets : Reading (Option (List String)) := do
  let _ ← name
  let columns ← if ← atMark "(" then pure (some (← inBrackets 2 Grammar.names)) else pure none
  let _ ← many reference?
  return columns

namespace Grammar

variable (g : Grammar)

/-- Any expression in brackets behind so much that is not complete. -/
def enclosed (before : Nat) : Reading Expr := inBrackets before do sound (← g.any)

/-- Expressions to sort by, in brackets. -/
def terms (before : Nat) (r : Reading Bool) : Reading (List Term × Bool) := inBrackets before do
  let terms ← list do
    let (e, backward, placesNull) ← g.term
    return ({ expr := ← sound e, backward, placesNull } : Term)
  return (terms, ← r)

/-- The value of a column that is not given. -/
def defaultValue : Reading Expr := do
  let written : Reading Expr := do
    let t ← take
    match t.lexeme with
    | .integer | .float => return .literal (.number t.text)
    | .string content => return .literal (.string content)
    | .blob digits => return .literal (.blob digits)
    | .word "null" => return .literal .null
    | .word w =>
      if ["current_date", "current_time", "current_timestamp"].contains w then
        return .literal (.now w)
      else failure
    | _ => failure
  if ← atMark "(" then g.enclosed 1
  else if ← mark? "+" then written
  else if ← mark? "-" then return .node .negate [← written]
  else
    match ← peek with
    | none => failure
    | some t =>
      let isName := t.isIdentifier || t.lexeme == .word indexedWord
      let isNow := match t.lexeme with
        | .word w => ["current_date", "current_time", "current_timestamp"].contains w
        | _ => false
      if isName && !isNow then
        let _ ← take
        match t.lexeme with
        | .word w =>
          if w = "true" ∨ w = "false" then return .name [{ text := t.unquoted }]
          else return .literal (.string t.text)
        | .quoted content _ => return .literal (.string content)
        | _ => failure
      else written

/-- How a column is made from others, behind the words for it. -/
def generated (before : Nat) : Reading ColumnRule := do
  let e ← g.enclosed before
  match ← peek with
  | some t =>
    if t.isIdentifier then
      match (← take).lexeme with
      | .word "virtual" => return .generated e false
      | .word "stored" => return .generated e true
      | _ => failure
    else return .generated e false
  | none => return .generated e false

/-- A rule for a column, if there is one more. -/
def columnRule? : Reading (Option ColumnRule) := do
  if (← atWord "not") && (← peekAt 1).any fun t => t.lexeme == .word "null" then
    words ["not", "null"]
    return some (.notNull (← resolution))
  else if ← atWord "not" then
    words ["not", "deferrable"]
    deferral
    return some .idle
  match ← peek with
  | none => return none
  | some t =>
    match t.lexeme with
    | .word "constraint" =>
      let _ ← take
      let _ ← name
      return some .idle
    | .word "default" =>
      let _ ← take
      return some (.default (← g.defaultValue))
    | .word "null" =>
      let _ ← take
      let _ ← resolution
      return some .idle
    | .word "primary" =>
      words ["primary", "key"]
      let backward ← Grammar.direction
      let r ← resolution
      return some (.primaryKey backward (← word? "autoincrement") r)
    | .word "unique" =>
      let _ ← take
      return some (.unique (← resolution))
    | .word "check" =>
      let _ ← take
      return some (.check (← g.enclosed 1))
    | .word "references" =>
      let _ ← take
      return some (.references (← targets))
    | .word "deferrable" =>
      let _ ← take
      deferral
      return some .idle
    | .word "collate" =>
      let _ ← take
      return some (.collate (← looseName))
    | .word "generated" =>
      words ["generated", "always", "as"]
      return some (← g.generated 3)
    | .word "as" =>
      let _ ← take
      return some (← g.generated 1)
    | _ => return none

/-! ## Tables -/

/-- The definition of a column. -/
def columnDefinition : Reading ColumnDefinition := do
  let name ← name
  let type ← under 1 Grammar.typeName
  return { name, type, rules := ← under 2 (many g.columnRule?) }

/-- The words that begin a rule for a table. -/
def tableRuleWords : List String := ["constraint", "primary", "unique", "check", "foreign"]

/-- A rule for a table. -/
def tableRule : Reading TableRule := do
  match ← oneWord tableRuleWords with
  | "constraint" =>
    let _ ← name
    return .idle
  | "primary" =>
    word "key"
    let (terms, counting) ← g.terms 2 (word? "autoincrement")
    return .primaryKey terms counting (← resolution)
  | "unique" =>
    let (terms, _) ← g.terms 1 (pure false)
    return .unique terms (← resolution)
  | "check" =>
    let e ← g.enclosed 1
    let _ ← resolution
    return .check e
  | _ =>
    word "key"
    let columns ← inBrackets 2 Grammar.names
    word "references"
    let targets ← targets
    if (← atWord "not") || (← atWord "deferrable") then
      let _ ← word? "not"
      word "deferrable"
      deferral
    return .foreignKey columns targets

/-- More columns behind some, which come in reverse, and whether rules follow; at most so many. -/
def columnsOnto : Nat → List ColumnDefinition → Reading (List ColumnDefinition × Bool)
  | 0, done => return (done.reverse, false)
  | left + 1, done => do
    if ← mark? "," then
      if ← atWords tableRuleWords then return (done.reverse, true)
      else columnsOnto left ((← under 4 g.columnDefinition) :: done)
    else return (done.reverse, false)

/-- One more rule for a table, if there is one; a comma before it may be left out. -/
def nextTableRule? : Reading (Option TableRule) := do
  if (← mark? ",") || (← atWords tableRuleWords) then return some (← g.tableRule) else return none

/-- An option of a table: its rows have no keys of their own, or its types bind. -/
def tableOption : Reading Bool := do
  if ← word? "without" then
    word "rowid"
    return true
  else
    word "strict"
    return false

/-- The definition of a table. -/
def tableDefinition : Reading TableDefinition := do
  mark "("
  let first ← under 2 g.columnDefinition
  let (columns, ruled) ← g.columnsOnto (← get).tokens.length [first]
  let rules ← if ruled then do
      let first ← under 4 g.tableRule
      pure (first :: (← under 6 (many g.nextTableRule?)))
    else pure []
  mark ")"
  let atEnd := (← peek).isNone || (← atMark ";")
  let options ← if atEnd then pure [] else list tableOption
  return { columns, rules, keyless := options.contains true, strict := options.contains false }

/-! ## Indexes and views -/

/-- The definition of an index behind its name. -/
def indexDefinition (unique : Bool) : Reading IndexDefinition := do
  word "on"
  let table ← name
  let (terms, _) ← g.terms 8 (pure false)
  let condition ← if ← word? "where" then pure (some (← sound (← g.anyUnder 12))) else pure none
  return { table, terms, unique, condition }

/-- The definition of a view behind its name. -/
def viewDefinition : Reading Scope := do
  if ← atMark "(" then
    let _ ← inBrackets 6 Grammar.names
  word "as"
  under 8 g.query

/-! ## Triggers -/

/-- What happens to rows that break a rule, in a step of a trigger. -/
def stepResolution : Reading Unit := do
  if ← word? "or" then
    let _ ← resolutionOf

/-- The name of the table that a step of a trigger changes. -/
def stepTarget : Reading Unit := do
  let _ ← name
  if (← atMark ".") || (← atWord indexedWord) || (← atWord "not") then failure

/-- Columns with their new values. -/
def assignments : Reading Scope := do
  let scopes ← list do
    let _ ← name
    mark "="
    g.anyScope 2
  return Scope.all scopes

/-- A condition, if there is one. -/
def whereScope (before : Nat) : Reading Scope := do
  if ← word? "where" then g.anyScope before else return {}

/-- What is done instead of adding a row that breaks a rule; at most so many times. -/
def upserts : Nat → Reading Scope
  | 0 => failure
  | left + 1 => do
    if ← atWord "returning" then failure
    if ← word? "on" then
      word "conflict"
      let targeted ← atMark "("
      let target ← if targeted then do
          let terms ← inBrackets 6 g.sorting
          pure (terms.and (← g.whereScope 9))
        else pure {}
      word "do"
      let change ← if ← word? "nothing" then pure {}
        else do
          words ["update", "set"]
          let changes ← under 12 g.assignments
          pure (changes.and (← g.whereScope 13))
      let more ← if targeted then upserts left
        else do
          if ← atWord "returning" then failure
          pure {}
      return (target.and change).and more
    else return {}

/-- A step of a trigger. -/
def step : Reading Scope := do
  if ← atQuery then g.query
  else
    match ← oneWord ["update", "insert", "replace", "delete"] with
    | "update" =>
      stepResolution
      stepTarget
      word "set"
      let changes ← under 5 g.assignments
      let tables ← if ← word? "from" then under 7 (g.tables (← get).tokens.length true) else pure {}
      return (changes.and tables).and (← g.whereScope 8)
    | "delete" =>
      word "from"
      stepTarget
      g.whereScope 5
    | verb =>
      if verb = "insert" then stepResolution
      word "into"
      let _ ← name
      if ← atMark "." then failure
      if ← atMark "(" then
        let _ ← inBrackets 4 (list name)
      let rows ← under 5 g.query
      return rows.and (← g.upserts (← get).tokens.length)

/-- A step of a trigger with the mark behind it, unless the trigger ends. -/
def step? : Reading (Option Scope) := do
  if ← word? "end" then return none
  else
    let scope ← under 4 g.step
    mark ";"
    return some scope

/-- The definition of a trigger behind its name. -/
def triggerDefinition : Reading Making := do
  let instead ← if ← word? "instead" then do
      word "of"
      pure true
    else do
      if !(← word? "before") then
        let _ ← word? "after"
      pure false
  if (← oneWord ["delete", "insert", "update"]) == "update" then
    if ← word? "of" then
      let _ ← list name
  word "on"
  let first ← name
  let table ← match ← behindMark? "." name with
    | some table => pure table
    | none => pure first
  if ← word? "for" then words ["each", "row"]
  let condition ← if ← word? "when" then g.anyScope 11 else pure {}
  word "begin"
  let first ← under 3 g.step
  mark ";"
  let steps ← many g.step?
  return .trigger table instead (Scope.all (condition :: first :: steps))

/-! ## Tables of modules -/

/-- Takes everything up to the bracket that closes so many open ones; at most so many tokens. -/
def balanced : Nat → Nat → Reading Unit
  | 0, _ => failure
  | left + 1, depth => do
    let t ← take
    if t.lexeme == .mark "(" then balanced left (depth + 1)
    else if t.lexeme == .mark ")" then
      match depth with
      | 0 => failure
      | 1 => return
      | depth + 2 => balanced left (depth + 1)
    else if t.lexeme == .unknown then failure
    else balanced left depth

/-- The definition of a table of a module behind its name. -/
def moduleDefinition : Reading Making := do
  word "using"
  let _ ← name
  if ← mark? "(" then balanced ((← get).tokens.length + 1) 1
  return .module

/-! ## Statements -/

/-- The kinds of things that statements make. -/
def kindWords : List String := ["table", "index", "view", "trigger", "virtual"]

/-- What a statement makes, by the word for its kind; indexes may hold every value once. -/
def makingOf (kind : String) (unique : Bool) : Reading Making := do
  match kind with
  | "table" => return .table (← g.tableDefinition)
  | "index" => return .index (← g.indexDefinition unique)
  | "view" => return .view (← g.viewDefinition)
  | "trigger" => g.triggerDefinition
  | _ => moduleDefinition

/-- A statement that makes something. -/
def statement : Reading Statement := do
  word "create"
  let temporary ← if ← word? "temp" then pure true else word? "temporary"
  let unique ← if temporary then pure false else word? "unique"
  let kind ← oneWord kindWords
  if unique && kind != "index" then failure
  if temporary && (kind == "index" || kind == "virtual") then failure
  if kind == "virtual" then word "table"
  let unlessThere ← word? "if"
  if unlessThere then words ["not", "exists"]
  let first ← name
  let second? ← behindMark? "." name
  let making ← g.makingOf kind unique
  if (← peek).isSome then mark ";"
  return { name := second?.getD first, qualified := second?.isSome, temporary, unlessThere, making }

end Grammar

/-- The statement that a text begins with; the text ends at a zero byte. -/
def Statement.ofText? (cs : List Char) : Option Statement :=
  let tokens := markClauses (tokens (cs.takeWhile fun c => c != '\x00'))
  ((Grammar.ofDepth (tokens.length + 1)).statement.run { tokens }).map Prod.fst

end Sql

end Database

end InFlight
