import InFlight.Json.Token

/-!
# Reading a JSON value

A machine takes one token at a time and keeps the containers that are still open on a stack;
so nesting of any depth costs no more than memory.  The text of a value holds exactly one
value.

## Main definitions

* `InFlight.Json.Frame` — a container that is still open.
* `InFlight.Json.Progress` — what has been read so far and what may come next.
* `InFlight.Json.Progress.step?` — one token.
* `InFlight.Json.ofTokens?`, `InFlight.Json.parse?` — the value of a list of tokens, of a text.
-/

set_option relaxedAutoImplicit false
set_option autoImplicit false

namespace InFlight

namespace Json

/-- A container that is still open, with what it holds so far in reverse; in an object, the
key whose value comes next. -/
inductive Frame where
  | array (done : List Json)
  | object (done : List (Option String × Json)) (key : Option String)

/-- What may come next, inside the open containers `stack`. -/
inductive Progress where
  /-- A value. -/
  | value (stack : List Frame)
  /-- The first item of an array, or its end. -/
  | firstItem (stack : List Frame)
  /-- The first key of an object, or its end. -/
  | firstKey (stack : List Frame)
  /-- A further key of an object. -/
  | nextKey (stack : List Frame) (done : List (Option String × Json))
  /-- The colon after a key. -/
  | colon (stack : List Frame) (done : List (Option String × Json)) (key : Option String)
  /-- What follows a value. -/
  | after (stack : List Frame) (value : Json)

namespace Progress

/-- The first token of a value. -/
def beginValue? (stack : List Frame) : Token → Option Progress
  | .null => some (.after stack .null)
  | .bool b => some (.after stack (.bool b))
  | .number n => some (.after stack (.number n))
  | .string s => some (.after stack (.string s))
  | .openArray => some (.firstItem stack)
  | .openObject => some (.firstKey stack)
  | _ => none

/-- One token. -/
def step? : Progress → Token → Option Progress
  | .value stack, t => beginValue? stack t
  | .firstItem stack, .closeArray => some (.after stack (.array []))
  | .firstItem stack, t => beginValue? (.array [] :: stack) t
  | .firstKey stack, .closeObject => some (.after stack (.object []))
  | .firstKey stack, .string key => some (.colon stack [] key)
  | .nextKey stack done, .string key => some (.colon stack done key)
  | .colon stack done key, .colon => some (.value (.object done key :: stack))
  | .after (.array done :: stack) v, .comma => some (.value (.array (v :: done) :: stack))
  | .after (.array done :: stack) v, .closeArray =>
    some (.after stack (.array (v :: done).reverse))
  | .after (.object done key :: stack) v, .comma => some (.nextKey stack ((key, v) :: done))
  | .after (.object done key :: stack) v, .closeObject =>
    some (.after stack (.object ((key, v) :: done).reverse))
  | _, _ => none

/-- The machine after a list of tokens. -/
def run? (p : Progress) (ts : List Token) : Option Progress := ts.foldlM step? p

/-- The value, once it is complete. -/
def result? : Progress → Option Json
  | .after [] v => some v
  | _ => none

end Progress

/-- The value that a list of tokens writes. -/
def ofTokens? (ts : List Token) : Option Json :=
  (Progress.run? (.value []) ts).bind Progress.result?

/-- The value that a text writes. -/
def parse? (s : String) : Option Json := (Token.scan? s).bind ofTokens?

end Json

end InFlight
