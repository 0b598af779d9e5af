import InFlight.Database.Sql.Expr
import InFlight.Database.Sql.Reading

/-!
# Expressions and queries as they are read

Operators bind more or less strongly.  An operand reaches as far as operators bind more strongly
than the one before it; of two that bind alike the left one comes first.  A word that can be a name
is one wherever it has no meaning of its own.

Expressions and queries hold each other.  A grammar is a pair of readings for them, and one that
reads a level more is made from it; as many levels as there are tokens are enough.

## Main definitions

* `InFlight.Database.Sql.Level` — how strongly operators bind.
* `InFlight.Database.Sql.Grammar`, `InFlight.Database.Sql.Grammar.deeper` — readings for
  expressions and queries.
* `InFlight.Database.Sql.expr`, `InFlight.Database.Sql.query` — an expression and a query.
-/

set_option relaxedAutoImplicit false
set_option autoImplicit false

namespace InFlight

namespace Database

namespace Sql

open Reading

/-! ## Operators -/

namespace Level

/-- The levels of operators, of which higher ones bind more strongly. -/
def or : Nat := 1
def and : Nat := 2
def not : Nat := 3
def equal : Nat := 4
def less : Nat := 5
def bits : Nat := 7
def sum : Nat := 8
def product : Nat := 9
def join : Nat := 10
def collate : Nat := 11
def sign : Nat := 12

end Level

/-- The operation of a mark between two operands, and its level. -/
def binary? : String → Option (Op × Nat)
  | "=" => some (.comparison .eq, Level.equal)
  | "<>" => some (.comparison .ne, Level.equal)
  | "<" => some (.comparison .lt, Level.less)
  | "<=" => some (.comparison .le, Level.less)
  | ">" => some (.comparison .gt, Level.less)
  | ">=" => some (.comparison .ge, Level.less)
  | "&" => some (.arithmetic .bitAnd, Level.bits)
  | "|" => some (.arithmetic .bitOr, Level.bits)
  | "<<" => some (.arithmetic .shiftLeft, Level.bits)
  | ">>" => some (.arithmetic .shiftRight, Level.bits)
  | "+" => some (.arithmetic .add, Level.sum)
  | "-" => some (.arithmetic .subtract, Level.sum)
  | "*" => some (.arithmetic .multiply, Level.product)
  | "/" => some (.arithmetic .divide, Level.product)
  | "%" => some (.arithmetic .remainder, Level.product)
  | "||" => some (.join, Level.join)
  | "->" => some (.extract "->", Level.join)
  | "->>" => some (.extract "->>", Level.join)
  | _ => none

/-- The words that compare a text with a pattern. -/
def likeWords : List String := ["like", "glob", "regexp", "match"]

/-- The level of a word behind an operand. -/
def wordLevel? (w : String) : Option Nat :=
  if w = "or" then some Level.or
  else if w = "and" then some Level.and
  else if w = "not" then some Level.not
  else if w = "collate" then some Level.collate
  else if ["is", "isnull", "notnull", "between", "in"].contains w || likeWords.contains w then
    some Level.equal
  else none

/-- The level of a token behind an operand. -/
def Token.level? (t : Token) : Option Nat :=
  match t.lexeme with
  | .mark m => (binary? m).map Prod.snd
  | .word w => wordLevel? w
  | _ => none

namespace Expr

/-- The number zero. -/
def isZero : Expr → Bool
  | literal (.number text) => text.all fun c => c == '0'
  | _ => false

/-- Both of two conditions; nothing but zero is left beside a zero. -/
def both (a b : Expr) : Expr :=
  if a.isZero || b.isZero then literal (.number ['0']) else node .and [a, b]

/-- Whether two values are the same. -/
def alike (negated : Bool) (a b : Expr) : Expr :=
  match b with
  | literal .null => node (.isNull negated) [a]
  | b => node (.same negated) [a, b]

end Expr

/-! ## Grammars -/

/-- Readings for expressions and queries.  An expression is read with the least level of operators
in it; it may have to stop at the first word `and`. -/
structure Grammar where
  expr : Bool → Nat → Reading Expr
  query : Reading Scope

namespace Grammar

variable (g : Grammar)

/-- Any expression. -/
def any : Reading Expr := g.expr false 0

/-- Any expression behind so much that is not complete. -/
def anyUnder (before : Nat) : Reading Expr := under before g.any

/-- What an expression refers to. -/
def anyScope (before : Nat) : Reading Scope := do return (← g.anyUnder before).scope

/-! ## Parts of expressions -/

/-- A query begins here. -/
def atQuery : Reading Bool := atWords ["select", "values", "with"]

/-- Whether values come in the opposite order. -/
def direction : Reading Bool := do
  if ← word? "desc" then return true
  let _ ← word? "asc"
  return false

/-- Whether it is said where nothing is put in the order. -/
def nulls : Reading Bool := do
  if ← word? "nulls" then
    let _ ← under 1 (oneWord ["first", "last"])
    return true
  else return false

/-- An expression to sort by, whether backward, and whether it is said where nothing is put. -/
def term : Reading (Expr × Bool × Bool) := do
  let e ← g.any
  let backward ← under 1 direction
  let explicit ← under 2 nulls
  return (e, backward, explicit)

/-- What a list of expressions to sort by refers to. -/
def sorting : Reading Scope := do
  return Scope.all ((← list g.term).map fun t => t.1.scope)

/-- What a list of expressions refers to. -/
def several : Reading Scope := do return Scope.all ((← list g.any).map Expr.scope)

/-- A type: names and strings, and up to two numbers in brackets; as it is written. -/
def typeName : Reading String := do
  let before := (← get).tokens
  let names ← many do
    if (← peek).any fun t => t.loose?.isSome then return some (← take) else return none
  if !names.isEmpty && (← atMark "(") then
    let number : Reading Unit := do
      if !(← mark? "+") then
        let _ ← mark? "-"
      let t ← take
      if t.lexeme != .integer && t.lexeme != .float then failure
    inBrackets 1 do
      number
      let _ ← behindMark? "," number
  let after := (← get).tokens
  return String.ofList (written (before.take (before.length - after.length)))

/-- The bounds of a frame. -/
def bound : Reading Scope := do
  if ← word? "current" then
    word "row"
    return {}
  else if ← word? "unbounded" then
    let _ ← oneWord ["preceding", "following"]
    return {}
  else
    let scope ← g.anyScope 0
    let _ ← under 1 (oneWord ["preceding", "following"])
    return scope

/-- The frame of a part of the rows, if there is one. -/
def frame : Reading Scope := do
  if !(← atWords ["range", "rows", "groups"]) then return {}
  let _ ← take
  let scope ← if ← word? "between" then do
      let low ← under 2 g.bound
      word "and"
      pure (low.and (← under 4 g.bound))
    else under 1 g.bound
  if ← word? "exclude" then
    match ← oneWord ["no", "current", "group", "ties"] with
    | "no" => word "others"
    | "current" => word "row"
    | _ => pure ()
  return scope

/-- A part of the rows. -/
def window : Reading Scope := do
  let mut scope : Scope := {}
  let isKeyword := (← atWords ["partition", "order", "range", "rows", "groups"])
  if !isKeyword && !(← atMark ")") then
    let _ ← name
  if ← word? "partition" then
    word "by"
    scope := scope.and (← under 2 g.several)
  if ← word? "order" then
    word "by"
    scope := scope.and (← under 3 g.sorting)
  return scope.and (← g.frame)

/-- The clauses behind a call. -/
def clauses (c : Call) : Reading Call := do
  let mut c := c
  if (← peek).any fun t => t.lexeme == .clause "filter" then
    let _ ← take
    let scope ← inBrackets 1 do
      word "where"
      g.anyScope 1
    c := { c with filtered := true, beside := c.beside.and scope }
  if (← peek).any fun t => t.lexeme == .clause "over" then
    let _ ← take
    if ← atMark "(" then
      let scope ← inBrackets 1 g.window
      c := { c with windowed := true, beside := c.beside.and scope }
    else
      let _ ← name
      c := { c with windowed := true }
  return c

/-- The greatest number of arguments of a function. -/
def maxArguments : Nat := 127

/-- A call of a function behind its name. -/
def callOf (function : String) : Reading Expr := do
  under 1 (mark "(")
  if ← under 2 (mark? "*") then
    under 3 (mark ")")
    return .node (.call (← g.clauses { function, star := true })) []
  under 2 begun
  if !(← under 2 (word? "distinct")) then
    let _ ← under 2 (word? "all")
  let args ← if (← atMark ")") || (← atWord "order") then pure [] else under 3 (list g.any)
  if maxArguments < args.length then failure
  let mut call : Call := { function }
  if ← under 4 (word? "order") then
    under 5 (word "by")
    call := { call with sorted := true, beside := ← under 6 g.sorting }
  under 4 (mark ")")
  return .node (.call (← g.clauses call)) args

/-- The alternatives of a choice. -/
def alternative? (behindOthers : Nat) : Reading (Option (Expr × Expr)) := do
  if ← under (2 + behindOthers) (word? "when") then
    let condition ← g.anyUnder (3 + behindOthers)
    under (4 + behindOthers) (word "then")
    return some (condition, ← g.anyUnder (5 + behindOthers))
  else return none

/-- A choice behind its first word. -/
def choice : Reading Expr := do
  let operand ← if ← atWord "when" then pure [] else pure [← g.anyUnder 1]
  match ← g.alternative? 0 with
  | none => failure
  | some first =>
    let more ← many (g.alternative? 1)
    let rest ← match ← under 3 (behindWord? "else" g.any) with
      | some e => pure [e]
      | none => pure []
    under 4 (word "end")
    let pairs := (first :: more).flatMap fun (condition, e) => [condition, e]
    return .node (.choose (!operand.isEmpty) (!rest.isEmpty)) (operand ++ pairs ++ rest)

/-- What stands in round brackets where an operand is due. -/
def bracketed : Reading Expr := inBrackets 0 do
  if ← atQuery then return .query (← g.query)
  match ← list g.any with
  | [e] => return e
  | es => return .node .vector es

/-- A name where an operand is due: a function, a column, or one of a table. -/
def named : Reading Expr := do
  let t ← take
  match t.name? with
  | none => failure
  | some text =>
    let marks : Marks := match t.lexeme with
      | .quoted _ true => .double
      | .word _ => .bare
      | _ => .other
    let first : Name := { text, marks }
    if (← atMark "(") && t.plain?.isSome then g.callOf text
    else if ← under 1 (mark? ".") then
      let second ← under 2 name
      if ← under 3 (mark? ".") then
        let third ← under 4 name
        return .name [first, { text := second }, { text := third }]
      else return .name [first, { text := second }]
    else if t.plain?.isSome then return .name [first]
    else failure

/-- What stands for a value, with the signs before it and in brackets or without. -/
def operand : Reading Expr := do
  match ← peek with
  | none => failure
  | some t =>
    match t.lexeme with
    | .mark "(" => g.bracketed
    | .mark "-" => do
      let _ ← take
      return .node .negate [← under 1 (g.expr false Level.sign)]
    | .mark "+" => do
      let _ ← take
      return .node .plus [← under 1 (g.expr false Level.sign)]
    | .mark "~" => do
      let _ ← take
      return .node .bitNot [← under 1 (g.expr false Level.sign)]
    | .integer | .float => do
      let _ ← take
      return .literal (.number t.text)
    | .blob digits => do
      let _ ← take
      return .literal (.blob digits)
    | .parameter =>
      let _ ← take
      match t.text with
      | '#' :: c :: _ => if Decimal.isDigit c then failure else return .parameter
      | _ => return .parameter
    | .string content =>
      if (← peekAt 1).any fun u => u.lexeme == .mark "." then g.named
      else
        let _ ← take
        return .literal (.string content)
    | .word "null" => do
      let _ ← take
      return .literal .null
    | .word "not" => do
      let _ ← take
      return .node .not [← under 1 (g.expr false Level.not)]
    | .word "exists" => do
      let _ ← take
      return .query (← inBrackets 1 g.query)
    | .word "case" => do
      let _ ← take
      g.choice
    | .word "cast" => do
      let _ ← take
      inBrackets 1 do
        let e ← g.any
        under 1 (word "as")
        return .node (.cast (← under 2 typeName)) [e]
    | .word "raise" => do
      let _ ← take
      inBrackets 1 do
        if (← oneWord ["ignore", "rollback", "abort", "fail"]) != "ignore" then
          mark ","
          let _ ← name
      return .node .raise []
    | .word w =>
      if ["current_date", "current_time", "current_timestamp"].contains w then do
        let _ ← take
        return .literal (.now w)
      else g.named
    | .quoted .. => g.named
    | _ => failure

/-! ## Operations -/

/-- What a value is looked for among, behind the word `in`. -/
def amongOf (negated : Bool) (e : Expr) : Reading Expr := do
  if ← atMark "(" then
    inBrackets 0 do
      if ← atQuery then
        let scope ← g.query
        return .node (.among negated) [e, .query scope]
      if ← atMark ")" then return .literal (.number (if negated then ['1'] else ['0']))
      match ← list g.any with
      | [.query scope] => return .node (.among negated) [e, .query scope]
      | es => return .node (.among negated) (e :: es)
  else
    let first ← name
    let databases ← match ← behindMark? "." name with
      | some _ => pure [first]
      | none => pure []
    let args ← if ← atMark "(" then
        inBrackets 2 do if ← atMark ")" then pure {} else g.several
      else pure {}
    return .node (.among negated) [e, .query (Scope.and { databases } args)]

/-- What follows the word of an operation on an operand, which may be negated. -/
def wordOperation (e : Expr) (w : String) (negated : Bool) : Reading Expr := do
  if likeWords.contains w then
    let pattern ← under 2 (g.expr false (Level.equal + 1))
    if ← under 3 (word? "escape") then
      let mark ← under 4 (g.expr false (Level.equal + 1))
      return .node (.like w negated) [e, pattern, mark]
    else return .node (.like w negated) [e, pattern]
  else if w = "between" then
    let low ← under 2 (g.expr true 0)
    under 3 (word "and")
    let high ← under 4 (g.expr false (Level.equal + 1))
    return .node (.between negated) [e, low, high]
  else if w = "in" then under 2 (g.amongOf negated e)
  else failure

/-- What follows the word `is` behind an operand. -/
def sameOperation (e : Expr) : Reading Expr := do
  let negated ← under 2 (word? "not")
  if ← under 3 (word? "distinct") then
    under 4 (word "from")
    return Expr.alike (!negated) e (← under 5 (g.expr false (Level.equal + 1)))
  else
    return Expr.alike negated e (← under 3 (g.expr false (Level.equal + 1)))

/-- One operation on an operand. -/
def operation (e : Expr) : Reading Expr := do
  let t ← under 1 take
  match t.lexeme with
  | .mark m =>
    match binary? m with
    | some (op, level) => return .node op [e, ← under 2 (g.expr false (level + 1))]
    | none => failure
  | .word "or" => return .node .or [e, ← under 2 (g.expr false (Level.or + 1))]
  | .word "and" => return Expr.both e (← under 2 (g.expr false (Level.and + 1)))
  | .word "collate" => return .node (.collate (← under 2 looseName)) [e]
  | .word "isnull" => return .node (.isNull false) [e]
  | .word "notnull" => return .node (.isNull true) [e]
  | .word "is" => g.sameOperation e
  | .word "not" =>
    let u ← under 2 take
    match u.lexeme with
    | .word "null" => return .node (.isNull true) [e]
    | .word w => g.wordOperation e w true
    | _ => failure
  | .word w => g.wordOperation e w false
  | _ => failure

/-- Operations on an operand as long as their operators bind strongly enough; at most so many. -/
def operations (stops : Bool) (least : Nat) : Nat → Expr → Reading Expr
  | 0, e => return e
  | left + 1, e => do
    match (← peek).bind Token.level? with
    | none => return e
    | some level =>
      if level < least || (stops && level == Level.and) then return e
      else operations stops least left (← g.operation e)

/-- The greatest height of an expression. -/
def maxHeight : Nat := 1000

/-- An expression with operators of a least level. -/
def exprOf (stops : Bool) (least : Nat) : Reading Expr := do
  let e ← g.operand
  g.operations stops least (← get).tokens.length e

/-! ## Queries -/

/-- The end of what is selected or where it is selected from. -/
def aliased : Reading Unit := do
  if ← word? "as" then
    let _ ← under 1 name
  else if (← peek).any fun t => t.loose?.isSome then
    let _ ← take

/-- One column of a query. -/
def column : Reading Scope := do
  if ← mark? "*" then return {}
  else
    let star := (← peekAt 1).any (fun t => t.lexeme == .mark ".") &&
      (← peekAt 2).any (fun t => t.lexeme == .mark "*")
    if star then
      let _ ← name
      mark "."
      mark "*"
      return {}
    else
      let scope ← g.anyScope 1
      under 2 aliased
      return scope

/-- How tables are joined: the words must fit together. -/
def isJoin (ws : List String) : Bool :=
  let has (w : String) : Bool := ws.contains w
  let inner := has "inner" || has "cross"
  let side := has "left" || has "right" || has "full"
  (ws.all fun w => joinWords.contains w) && !(inner && (side || has "outer")) &&
    (side || !has "outer")

/-- What joins the next table to those before it, if there is one. -/
def joined? : Reading Bool := do
  if (← mark? ",") || (← word? "join") then return true
  else if (← peek).any Token.isJoinWord then
    let first := (← take).unquoted
    let more ← many do
      if ← atWord "join" then return none else return some (← name)
    word "join"
    if 2 < more.length || !isJoin ((first :: more).map String.toLower) then failure
    return true
  else return false

/-- The condition of a join. -/
def condition (first : Bool) : Reading Scope := do
  if ← atWords ["on", "using"] then
    if first then failure
    if ← word? "on" then g.anyScope 1
    else
      let _ ← take
      let _ ← inBrackets 1 (list name)
      return {}
  else return {}

/-- The index that is to be used for a table. -/
def indexed : Reading Unit := do
  if ← word? indexedWord then
    word "by"
    let _ ← name
  else if ← word? "not" then word indexedWord

/-- Tables to select from; those in brackets are at most so deep. -/
def tables : Nat → Bool → Reading Scope
  | 0, _ => failure
  | left + 1, first => do
    let here ← if ← atMark "(" then do
        let scope ← inBrackets 1 do if ← atQuery then g.query else tables left true
        under 2 aliased
        pure scope
      else do
        let one ← under 1 name
        let databases ← match ← under 2 (behindMark? "." name) with
          | some _ => pure [one]
          | none => pure []
        let args ← if ← under 3 (atMark "(") then
            inBrackets 3 do if ← atMark ")" then pure {} else g.several
          else pure {}
        under 3 aliased
        indexed
        pure (Scope.and { databases } args)
    let on ← under 4 (g.condition first)
    if ← under 1 joined? then return (here.and on).and (← tables left false)
    else return here.and on

/-- One query without others joined to it, and whether it is sorted or cut off. -/
def simple : Reading (Scope × Bool) := do
  if ← word? "values" then
    let rows ← list (inBrackets 1 g.several)
    return (Scope.all rows, false)
  word "select"
  under 1 begun
  if !(← under 1 (word? "distinct")) then
    let _ ← under 1 (word? "all")
  let mut scope := Scope.all (← under 3 (list g.column))
  if ← under 3 (word? "from") then
    scope := scope.and (← under 4 (g.tables (← get).tokens.length true))
  if ← under 4 (word? "where") then scope := scope.and (← g.anyScope 5)
  if ← under 5 (word? "group") then
    under 6 (word "by")
    scope := scope.and (← under 7 g.several)
  if ← under 6 (word? "having") then scope := scope.and (← g.anyScope 7)
  if (← peek).any fun t => t.lexeme == .clause "window" then
    let _ ← take
    let windows ← list do
      let _ ← name
      word "as"
      inBrackets 2 g.window
    scope := scope.and (Scope.all windows)
  let sorted ← under 7 (word? "order")
  if sorted then
    under 8 (word "by")
    scope := scope.and (← under 9 g.sorting)
  let cut ← under 8 (word? "limit")
  if cut then
    scope := scope.and (← g.anyScope 9)
    if ← under 10 (word? "offset") then scope := scope.and (← g.anyScope 11)
    else if ← under 10 (mark? ",") then scope := scope.and (← g.anyScope 11)
  return (scope, sorted || cut)

/-- How many queries may be put together. -/
def maxCompound : Nat := 500

/-- Queries put together behind one that is sorted or cut off or not; at most so many. -/
def compound : Nat → Scope → Bool → Reading Scope
  | 0, _, _ => failure
  | left + 1, scope, closed => do
    if ← under 1 (atWords ["union", "except", "intersect"]) then
      if closed then failure
      if (← take).lexeme == .word "union" then
        let _ ← word? "all"
      let (more, closed) ← under 2 g.simple
      compound left (scope.and more) closed
    else return scope

/-- A list of names in brackets, each of which may have a collation and a direction. -/
def names : Reading (List String) := list do
  let n ← name
  let _ ← under 1 (behindWord? "collate" looseName)
  let _ ← under 2 direction
  return n

/-- A query that others refer to by its name. -/
def shared : Reading (String × Scope) := do
  let n ← name
  if ← atMark "(" then
    let _ ← inBrackets 1 names
  word "as"
  if ← word? "not" then word "materialized"
  else
    let _ ← word? "materialized"
  return (n, ← inBrackets 3 g.query)

/-- A query with those that it shares. -/
def queryOf : Reading Scope := do
  let mut scope : Scope := {}
  if ← word? "with" then
    let _ ← under 1 (word? "recursive")
    let queries ← under 2 (list g.shared)
    let own := queries.map fun q => q.1.toLower
    if own.eraseDups.length != own.length then failure
    scope := Scope.all (queries.map Prod.snd)
  let (first, closed) ← g.simple
  g.compound maxCompound (scope.and first) closed

/-! ## Levels -/

/-- The grammar that reads one level more. -/
def deeper : Grammar where
  expr := g.exprOf
  query := g.queryOf

/-- The grammar that reads nothing. -/
def shallow : Grammar where
  expr _ _ := failure
  query := failure

/-- The grammar that reads so many levels. -/
def ofDepth : Nat → Grammar
  | 0 => shallow
  | depth + 1 => (ofDepth depth).deeper

end Grammar

/-- The grammar for what is left of a text. -/
def grammar : Reading Grammar := do return .ofDepth ((← get).tokens.length + 1)

/-- An expression. -/
def expr : Reading Expr := do
  let e ← (← grammar).any
  if Grammar.maxHeight < e.height then failure
  return e

/-- What a query refers to. -/
def query : Reading Scope := do (← grammar).query

end Sql

end Database

end InFlight
