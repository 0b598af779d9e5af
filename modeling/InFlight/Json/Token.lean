import InFlight.Json.Basic
import InFlight.Text.Hex

/-!
# JSON tokens

A text is cut into punctuation, words, numbers and strings; blanks between them (space, tab,
line feed, carriage return) are dropped.  A string admits no control character below U+0020
and no escape but the eight short ones and `\u` with four hexadecimal digits.

## Main definitions

* `InFlight.Json.Token` — the tokens.
* `InFlight.Json.Token.scan?` — the tokens of a text.
* `InFlight.Json.Piece.join?` — the text of a string from its characters and code units.

## Design

Every scanner takes the characters one by one and collects what it has read in reverse, so
that a text of any length is scanned in constant stack.
-/

set_option relaxedAutoImplicit false
set_option autoImplicit false

namespace InFlight

namespace Json

/-! ## Strings -/

/-- A part of a string literal: a character, or a code unit given by its number. -/
inductive Piece where
  | char (c : Char)
  | unit (u : Nat)
deriving DecidableEq, Repr

namespace Piece

/-- The first half of a surrogate pair. -/
def isHigh (u : Nat) : Bool := decide (0xD800 ≤ u ∧ u ≤ 0xDBFF)

/-- The second half of a surrogate pair. -/
def isLow (u : Nat) : Bool := decide (0xDC00 ≤ u ∧ u ≤ 0xDFFF)

/-- The character of a surrogate pair. -/
def pair (high low : Nat) : Char := Char.ofNat (0x10000 + 0x400 * (high - 0xD800) + (low - 0xDC00))

/-- The characters of a literal behind those in `done` (in reverse); none when a half of a
surrogate pair stands alone. -/
def joinOnto? (done : List Char) : List Piece → Option (List Char)
  | [] => some done.reverse
  | .char c :: rest => joinOnto? (c :: done) rest
  | .unit u :: rest =>
    if isLow u then none
    else if isHigh u then
      match rest with
      | .unit l :: rest => if isLow l then joinOnto? (pair u l :: done) rest else none
      | _ => none
    else joinOnto? (Char.ofNat u :: done) rest

/-- The text of a literal. -/
def join? (pieces : List Piece) : Option String :=
  (joinOnto? [] pieces).map String.ofList

end Piece

/-- The character of a short escape. -/
def shortEscape? (c : Char) : Option Char :=
  match c with
  | '"' => some '"'
  | '\\' => some '\\'
  | '/' => some '/'
  | 'b' => some '\x08'
  | 'f' => some '\x0c'
  | 'n' => some '\n'
  | 'r' => some '\r'
  | 't' => some '\t'
  | _ => none

/-- The code unit written by four hexadecimal digits. -/
def unit? (a b c d : Char) : Option Nat := do
  let a ← Hex.value? a
  let b ← Hex.value? b
  let c ← Hex.value? c
  let d ← Hex.value? d
  return 4096 * a + 256 * b + 16 * c + d

/-- The pieces of a string literal up to its closing quote, behind those in `done` (in
reverse), and what follows the quote. -/
def scanString? (done : List Piece) : List Char → Option (List Piece × List Char)
  | [] => none
  | '"' :: rest => some (done.reverse, rest)
  | '\\' :: 'u' :: a :: b :: c :: d :: rest =>
    match unit? a b c d with
    | some u => scanString? (.unit u :: done) rest
    | none => none
  | '\\' :: c :: rest =>
    match shortEscape? c with
    | some c => scanString? (.char c :: done) rest
    | none => none
  | c :: rest => if c.toNat < 0x20 ∨ c = '\\' then none else scanString? (.char c :: done) rest

/-! ## Numbers -/

/-- One or more digits, and what follows them. -/
def scanDigits? (cs : List Char) : Option (List Char × List Char) :=
  match cs.span Decimal.isDigit with
  | ([], _) => none
  | (ds, rest) => some (ds, rest)

/-- A fraction, if there is one. -/
def scanFraction? : List Char → Option (List Char × List Char)
  | '.' :: rest => (scanDigits? rest).map fun r => ('.' :: r.1, r.2)
  | rest => some ([], rest)

/-- An exponent, if there is one. -/
def scanExponent? : List Char → Option (List Char × List Char)
  | [] => some ([], [])
  | e :: rest =>
    if e = 'e' ∨ e = 'E' then
      match rest with
      | s :: rest' =>
        if s = '+' ∨ s = '-' then (scanDigits? rest').map fun r => (e :: s :: r.1, r.2)
        else (scanDigits? rest).map fun r => (e :: r.1, r.2)
      | [] => none
    else some ([], e :: rest)

/-- The digits before any point: a single zero, or digits that do not begin with one. -/
def scanWhole? : List Char → Option (List Char × List Char)
  | '0' :: rest =>
    match rest with
    | c :: _ => if Decimal.isDigit c then none else some (['0'], rest)
    | [] => some (['0'], [])
  | cs => scanDigits? cs

/-- A number without its sign. -/
def scanNumber? (negative : Bool) (cs : List Char) : Option (Number × List Char) := do
  let (digits, cs) ← scanWhole? cs
  let (fraction, cs) ← scanFraction? cs
  let (exponent, cs) ← scanExponent? cs
  return ({ negative, digits, tail := fraction ++ exponent }, cs)

/-! ## Tokens -/

/-- A token. -/
inductive Token where
  | openObject
  | closeObject
  | openArray
  | closeArray
  | colon
  | comma
  | null
  | bool (value : Bool)
  | number (value : Number)
  | string (value : Option String)
deriving DecidableEq, Repr

namespace Token

/-- A character that separates tokens. -/
def isSpace (c : Char) : Bool := c == ' ' || c == '\t' || c == '\n' || c == '\r'

/-- The token of a punctuation character. -/
def punctuation? (c : Char) : Option Token :=
  match c with
  | '\x7b' => some .openObject
  | '\x7d' => some .closeObject
  | '[' => some .openArray
  | ']' => some .closeArray
  | ':' => some .colon
  | ',' => some .comma
  | _ => none

/-- A token that is more than one punctuation character, and what follows it. -/
def scanLong? : List Char → Option (Token × List Char)
  | '"' :: rest => (scanString? [] rest).map fun r => (.string (Piece.join? r.1), r.2)
  | 'n' :: 'u' :: 'l' :: 'l' :: rest => some (.null, rest)
  | 't' :: 'r' :: 'u' :: 'e' :: rest => some (.bool true, rest)
  | 'f' :: 'a' :: 'l' :: 's' :: 'e' :: rest => some (.bool false, rest)
  | '-' :: rest => (scanNumber? true rest).map fun r => (.number r.1, r.2)
  | cs => (scanNumber? false cs).map fun r => (.number r.1, r.2)

/-- The tokens of `cs` behind those in `done` (in reverse), at most `fuel` characters or
tokens of it. -/
def scanOnto? : Nat → List Token → List Char → Option (List Token)
  | _, done, [] => some done.reverse
  | 0, _, _ :: _ => none
  | fuel + 1, done, c :: rest =>
    if isSpace c then scanOnto? fuel done rest
    else
      match punctuation? c with
      | some t => scanOnto? fuel (t :: done) rest
      | none =>
        match scanLong? (c :: rest) with
        | some (t, rest) => scanOnto? fuel (t :: done) rest
        | none => none

/-- The tokens of a list of characters.  Every token takes at least one character, so the
number of characters bounds the number of steps. -/
def scanList? (cs : List Char) : Option (List Token) := scanOnto? cs.length [] cs

/-- The tokens of a text. -/
def scan? (s : String) : Option (List Token) := scanList? s.toList

end Token

end Json

end InFlight
