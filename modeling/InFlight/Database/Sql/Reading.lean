import InFlight.Database.Sql.Word

/-!
# Reading statements

A reading takes tokens one after the other and fails at the first one that does not fit.  What has
been begun and is not complete yet, such as an open bracket, counts against a limit.

## Main definitions

* `InFlight.Database.Sql.Reading` — a reading.
* `InFlight.Database.Sql.Reading.under` — a reading within something that is not complete.
* `InFlight.Database.Sql.Reading.word?`, `InFlight.Database.Sql.Reading.mark?` and others — single
  tokens.
* `InFlight.Database.Sql.Reading.list` — a list with commas.
-/

set_option relaxedAutoImplicit false
set_option autoImplicit false

namespace InFlight

namespace Database

namespace Sql

/-! ## Readings -/

/-- The tokens that are left, and how much is not complete. -/
structure Source where
  tokens : List Token
  pending : Nat := 0

/-- How much may be not complete. -/
def maxPending : Nat := 99

/-- A reading, which may fail. -/
abbrev Reading (α : Type) := StateT Source Option α

namespace Reading

variable {α : Type}

/-- A reading within so much more that is not complete. -/
def under (more : Nat) (r : Reading α) : Reading α := fun s =>
  (r { s with pending := s.pending + more }).map fun (a, t) => (a, { t with pending := s.pending })

/-- The next token, which stays. -/
def peek : Reading (Option Token) := do return (← get).tokens.head?

/-- The token behind so many others, which stays. -/
def peekAt (i : Nat) : Reading (Option Token) := do return (← get).tokens[i]?

/-- Takes the next token. -/
def take : Reading Token := do
  let s ← get
  match s.tokens with
  | t :: ts =>
    if s.pending < maxPending then
      set { s with tokens := ts }
      return t
    else failure
  | [] => failure

/-- Something begins that takes room before its first token. -/
def begun : Reading Unit := do if maxPending ≤ (← get).pending then failure

/-! ## Single tokens -/

/-- The next token is a word. -/
def atWord (w : String) : Reading Bool := do
  return (← peek).any fun t => t.lexeme == .word w

/-- The next token is one of some words. -/
def atWords (ws : List String) : Reading Bool := do
  return (← peek).any fun t =>
    match t.lexeme with
    | .word w => ws.contains w
    | _ => false

/-- The next token is a mark. -/
def atMark (m : String) : Reading Bool := do
  return (← peek).any fun t => t.lexeme == .mark m

/-- Takes a word if it is the next token. -/
def word? (w : String) : Reading Bool := do
  if ← atWord w then
    let _ ← take
    return true
  else return false

/-- Takes a word. -/
def word (w : String) : Reading Unit := do if !(← word? w) then failure

/-- Takes one of some words. -/
def oneWord (ws : List String) : Reading String := do
  let t ← take
  match t.lexeme with
  | .word w => if ws.contains w then return w else failure
  | _ => failure

/-- Takes words one after the other. -/
def words (ws : List String) : Reading Unit := ws.forM word

/-- Takes a mark if it is the next token. -/
def mark? (m : String) : Reading Bool := do
  if ← atMark m then
    let _ ← take
    return true
  else return false

/-- Takes a mark. -/
def mark (m : String) : Reading Unit := do if !(← mark? m) then failure

/-- Takes a token that is something. -/
def taking (f : Token → Option α) : Reading α := do
  match f (← take) with
  | some a => return a
  | none => failure

/-- Takes a name. -/
def name : Reading String := taking Token.name?

/-- Takes the name of a collation, a type or an alias. -/
def looseName : Reading String := taking Token.loose?

/-! ## Several -/

/-- What stands in brackets behind so much that is not complete. -/
def inBrackets (before : Nat) (r : Reading α) : Reading α := do
  under before (mark "(")
  let a ← under (before + 1) r
  under (before + 2) (mark ")")
  return a

/-- More items of a list behind its first ones, which come in reverse; at most so many. -/
def listOnto (r : Reading α) : Nat → List α → Reading (List α)
  | 0, done => return done.reverse
  | left + 1, done => do
    if ← under 1 (mark? ",") then listOnto r left ((← under 2 r) :: done) else return done.reverse

/-- A list of one item or more with commas between them. -/
def list (r : Reading α) : Reading (List α) := do
  let first ← r
  listOnto r (← get).tokens.length [first]

/-- Items one after the other as long as there are any; at most so many. -/
def manyOnto (r? : Reading (Option α)) : Nat → List α → Reading (List α)
  | 0, done => return done.reverse
  | left + 1, done => do
    match ← r? with
    | some a => manyOnto r? left (a :: done)
    | none => return done.reverse

/-- Items one after the other as long as there are any. -/
def many (r? : Reading (Option α)) : Reading (List α) := do
  manyOnto r? ((← get).tokens.length + 1) []

/-- What follows a mark, if the mark is there. -/
def behindMark? (m : String) (r : Reading α) : Reading (Option α) := do
  if ← mark? m then return some (← under 1 r) else return none

/-- What follows a word, if the word is there. -/
def behindWord? (w : String) (r : Reading α) : Reading (Option α) := do
  if ← word? w then return some (← under 1 r) else return none

end Reading

end Sql

end Database

end InFlight
