import InFlight.Database.Sql.Token

/-!
# Words of statements

Some words are reserved: they cannot be names unless they stand in quotation marks.  Words that
join tables can be names, but not everywhere.  All other words can be names wherever they have no
meaning of their own.

Three words begin a clause about a part of the rows, but only in front of what such a clause goes
on with; otherwise they are names.

## Main definitions

* `InFlight.Database.Sql.reservedWords`, `InFlight.Database.Sql.joinWords` — words with a meaning.
* `InFlight.Database.Sql.Token.name?` and its variants — the name that a token is.
* `InFlight.Database.Sql.markClauses` — tokens with the words that begin a clause marked.
-/

set_option relaxedAutoImplicit false
set_option autoImplicit false

namespace InFlight

namespace Database

namespace Sql

/-- The words that cannot be names. -/
def reservedWords : List String := [
  "add", "all", "alter", "and", "as", "autoincrement", "between", "case", "check", "collate",
  "commit", "constraint", "create", "default", "deferrable", "delete", "distinct", "drop", "else",
  "escape", "except", "exists", "foreign", "from", "group", "having", "in", "index", "insert",
  "intersect", "into", "is", "isnull", "join", "limit", "not", "nothing", "notnull", "null", "on",
  "or", "order", "primary", "references", "returning", "select", "set", "table", "then", "to",
  "transaction", "union", "unique", "update", "using", "values", "when", "where"]

/-- The words that say how tables are joined. -/
def joinWords : List String := ["cross", "full", "inner", "left", "natural", "outer", "right"]

/-- The word that names the index of a table to use. -/
def indexedWord : String := "indexed"

namespace Token

/-- A word that can be a name anywhere. -/
def isFreeWord (t : Token) : Bool :=
  match t.lexeme with
  | .word w => !reservedWords.contains w && !joinWords.contains w && w != indexedWord
  | _ => false

/-- A word that joins tables. -/
def isJoinWord (t : Token) : Bool :=
  match t.lexeme with
  | .word w => joinWords.contains w
  | _ => false

/-- The text of a name without its quotation marks. -/
def unquoted (t : Token) : String :=
  match t.lexeme with
  | .quoted name _ => String.ofList name
  | .string content => String.ofList content
  | _ => String.ofList t.text

/-- A word that can be a name anywhere, or a name in quotation marks. -/
def isIdentifier (t : Token) : Bool :=
  match t.lexeme with
  | .quoted .. => true
  | _ => t.isFreeWord

/-- A token is a string. -/
def isString (t : Token) : Bool :=
  match t.lexeme with
  | .string _ => true
  | _ => false

/-- The name of a type, a collation or an alias. -/
def loose? (t : Token) : Option String :=
  if t.isIdentifier || t.isString then some t.unquoted else none

/-- The name of a column or a function in an expression. -/
def plain? (t : Token) : Option String :=
  if t.isIdentifier || t.isJoinWord || t.lexeme == .word indexedWord then some t.unquoted else none

/-- The name of a table, a column or something else in a statement. -/
def name? (t : Token) : Option String :=
  if t.isString then some t.unquoted else t.plain?

end Token

/-! ## Clauses -/

/-- A token that can be the name of a part of the rows. -/
def namesPart (t : Token) : Bool :=
  (t.isIdentifier && t.lexeme != .word "filter") || t.isString || t.isJoinWord

/-- A word begins a clause, between the token before it and those behind it. -/
def beginsClause (before : Option Token) (letters : String) (behind : List Token) : Bool :=
  let behindBracket := before.any fun t => t.lexeme == .mark ")"
  match letters, behind with
  | "window", t :: u :: _ => namesPart t && u.lexeme == .word "as"
  | "over", t :: _ => behindBracket && (t.lexeme == .mark "(" || namesPart t)
  | "filter", t :: _ => behindBracket && t.lexeme == .mark "("
  | _, _ => false

/-- Tokens behind another one, with the words that begin a clause marked. -/
def markClausesFrom (before : Option Token) : List Token → List Token
  | [] => []
  | t :: ts =>
    let marked := match t.lexeme with
      | .word w => if beginsClause before w ts then { t with lexeme := .clause w } else t
      | _ => t
    marked :: markClausesFrom (some t) ts

/-- Tokens with the words that begin a clause marked. -/
def markClauses (ts : List Token) : List Token := markClausesFrom none ts

/-- Marking changes no token's place. -/
theorem length_markClauses (ts : List Token) : (markClauses ts).length = ts.length := by
  have key : ∀ (ts : List Token) (before : Option Token),
      (markClausesFrom before ts).length = ts.length := by
    intro ts
    induction ts with
    | nil => intro; rfl
    | cons t ts ih => intro before; simp [markClausesFrom, ih]
  exact key ts none

end Sql

end Database

end InFlight
