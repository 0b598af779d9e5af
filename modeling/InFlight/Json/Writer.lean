import InFlight.Json.Token

/-!
# Writing a JSON value

Two layouts: the compact one without any blanks, and the indented one with a line for every
item and member, two spaces deeper than its container, and a space after every colon.  In
both, a string escapes the quote, the backslash and the control characters below U+0020, by a
short escape where there is one, and nothing else.

## Main definitions

* `InFlight.Json.quote` — the literal of a string.
* `InFlight.Json.compact`, `InFlight.Json.indented` — the two layouts.
-/

set_option relaxedAutoImplicit false
set_option autoImplicit false

namespace InFlight

namespace Json

/-! ## Strings and numbers -/

/-- The characters of a literal that stand for a character. -/
def escape (c : Char) : List Char :=
  match c with
  | '"' => ['\\', '"']
  | '\\' => ['\\', '\\']
  | '\x08' => ['\\', 'b']
  | '\x0c' => ['\\', 'f']
  | '\n' => ['\\', 'n']
  | '\r' => ['\\', 'r']
  | '\t' => ['\\', 't']
  | c =>
    if c.toNat < 0x20 then
      ['\\', 'u', '0', '0', Hex.digit (c.toNat / 16), Hex.digit (c.toNat % 16)]
    else [c]

/-- The literal of a text. -/
def quote (s : String) : String :=
  "\"" ++ String.ofList (s.toList.flatMap escape) ++ "\""

/-- A number as it is written. -/
def Number.write (n : Number) : String :=
  (if n.negative then "-" else "") ++ String.ofList n.digits ++ String.ofList n.tail

/-- The literal of a string; one without a text is written as the replacement character. -/
def writeString (s : Option String) : String := quote (s.getD "\uFFFD")

/-- A value that is no container, and an empty container. -/
def writeLeaf : Json → String
  | .null => "null"
  | .bool true => "true"
  | .bool false => "false"
  | .number n => n.write
  | .string s => writeString s
  | .array _ => "[]"
  | .object _ => "\x7b\x7d"

/-! ## The compact layout -/

mutual

/-- The compact layout of a value. -/
def compact : Json → String
  | .array items => "[" ++ String.intercalate "," (compactItems items) ++ "]"
  | .object members => "\x7b" ++ String.intercalate "," (compactMembers members) ++ "\x7d"
  | leaf => writeLeaf leaf

/-- The items of an array. -/
def compactItems : List Json → List String
  | [] => []
  | v :: rest => compact v :: compactItems rest

/-- The members of an object. -/
def compactMembers : List (Option String × Json) → List String
  | [] => []
  | (key, v) :: rest => (writeString key ++ ":" ++ compact v) :: compactMembers rest

end

/-! ## The indented layout -/

/-- A new line, indented by `depth` levels. -/
def newline (depth : Nat) : String := "\n" ++ String.ofList (List.replicate (2 * depth) ' ')

/-- Lines one level deeper than `depth`, between two brackets. -/
def block (depth : Nat) (opening closing : String) (lines : List String) : String :=
  opening ++ newline (depth + 1) ++ String.intercalate ("," ++ newline (depth + 1)) lines ++
    newline depth ++ closing

mutual

/-- The indented layout of a value that stands `depth` levels deep. -/
def indentedAt (depth : Nat) : Json → String
  | .array (v :: rest) => block depth "[" "]" (indentedItems (depth + 1) (v :: rest))
  | .object (m :: rest) =>
    block depth "\x7b" "\x7d" (indentedMembers (depth + 1) (m :: rest))
  | leaf => writeLeaf leaf

/-- The items of an array. -/
def indentedItems (depth : Nat) : List Json → List String
  | [] => []
  | v :: rest => indentedAt depth v :: indentedItems depth rest

/-- The members of an object. -/
def indentedMembers (depth : Nat) : List (Option String × Json) → List String
  | [] => []
  | (key, v) :: rest =>
    (writeString key ++ ": " ++ indentedAt depth v) :: indentedMembers depth rest

end

/-- The indented layout of a value. -/
def indented (v : Json) : String := indentedAt 0 v

end Json

end InFlight
