import InFlight.Text.Bytes
import InFlight.Text.Decimal
import InFlight.Text.Hex

/-!
# Tokens of statements

The statements that make what a database holds are kept as texts.  A text is cut into words, names
in quotation marks, strings, numbers and marks; blanks and comments stand between them.  Bytes
beyond ASCII are letters.

A comment runs from two hyphens to the end of the line, or from `/*` to the next `*/` or to the
end of the text.

## Main definitions

* `InFlight.Database.Sql.Lexeme`, `InFlight.Database.Sql.Token` — what a text is cut into.
* `InFlight.Database.Sql.tokens` — the tokens of a text.
-/

set_option relaxedAutoImplicit false
set_option autoImplicit false

namespace InFlight

namespace Database

namespace Sql

/-! ## Tokens -/

/-- What a token is. -/
inductive Lexeme where
  /-- A word without quotation marks, in small letters. -/
  | word (letters : String)
  /-- A word that begins a clause about a part of the rows. -/
  | clause (letters : String)
  /-- A name in quotation marks, which may be double ones. -/
  | quoted (name : List Char) (double : Bool)
  | string (content : List Char)
  | integer
  | float
  | blob (digits : List Char)
  | parameter
  | mark (m : String)
  /-- What can be no token, up to the end of the text. -/
  | unknown
deriving DecidableEq, Repr

/-- A token as it is written, and the blanks and comments before it. -/
structure Token where
  lexeme : Lexeme
  text : List Char
  gap : List Char
deriving DecidableEq, Repr

/-- Tokens as they are written, with what stands between them but not before the first one. -/
def written : List Token → List Char
  | [] => []
  | t :: ts => t.text ++ ts.flatMap fun t => t.gap ++ t.text

/-! ## Blanks and comments -/

/-- What stands behind the first `*/`. -/
def behindComment : List Char → List Char
  | '*' :: '/' :: cs => cs
  | _ :: cs => behindComment cs
  | [] => []

/-- A character that blanks may begin with; a vertical tabulator may only follow. -/
def beginsBlanks (c : Char) : Bool := Text.isSpace c && c != '\x0b'

/-- What stands behind blanks and comments, of which there are at most so many. -/
def skipGap : Nat → List Char → List Char
  | 0, cs => cs
  | left + 1, cs =>
    match cs with
    | '-' :: '-' :: cs => skipGap left (cs.dropWhile fun c => c != '\n')
    | '/' :: '*' :: c :: cs => skipGap left (behindComment (c :: cs))
    | '\xef' :: '\xbb' :: '\xbf' :: cs => skipGap left cs
    | c :: cs => if beginsBlanks c then skipGap left (cs.dropWhile Text.isSpace) else c :: cs
    | [] => []

/-! ## Lexemes -/

/-- A character of a word. -/
def isNameChar (c : Char) : Bool :=
  c.isAlphanum || c == '_' || c == '$' || decide (0x80 ≤ c.toNat)

/-- What stands up to the end of a quotation, where a mark that is written twice stands for
itself, and what follows it. -/
def quotation? (mark : Char) : List Char → Option (List Char × List Char)
  | [] => none
  | [c] => if c = mark then some ([], []) else none
  | c :: d :: cs =>
    if c = mark then
      if d = mark then (quotation? mark cs).map fun (content, rest) => (mark :: content, rest)
      else some ([], d :: cs)
    else (quotation? mark (d :: cs)).map fun (content, rest) => (c :: content, rest)

/-- The number that a text begins with, unless a word follows without a blank. -/
def number? (cs : List Char) : Option (Lexeme × List Char) :=
  let isHex := match cs with
    | '0' :: x :: d :: _ => (x == 'x' || x == 'X') && (Hex.value? d).isSome
    | _ => false
  if isHex then some (.integer, (cs.drop 2).dropWhile fun c => (Hex.value? c).isSome)
  else
    let rest := cs.dropWhile Decimal.isDigit
    let pointed := rest.head? == some '.'
    let rest := if pointed then (rest.drop 1).dropWhile Decimal.isDigit else rest
    let exponent? : Option (List Char) := match rest with
      | e :: c :: ds =>
        if e = 'e' ∨ e = 'E' then
          if Decimal.isDigit c then some ds
          else if (c = '+' ∨ c = '-') ∧ ds.head?.any Decimal.isDigit then some ds
          else none
        else none
      | _ => none
    let rest := match exponent? with
      | some ds => ds.dropWhile Decimal.isDigit
      | none => rest
    if rest.head?.any isNameChar then none
    else some (if pointed || exponent?.isSome then .float else .integer, rest)

/-- What stands behind the name of a parameter, which may end with a text in brackets; the name must
not be empty. -/
def parameterName? : Bool → List Char → Option (List Char)
  | named, [] => if named then some [] else none
  | named, c :: cs =>
    if isNameChar c then parameterName? true cs
    else if c = '(' ∧ named then
      match cs.dropWhile fun c => !Text.isSpace c && c != ')' with
      | ')' :: rest => some rest
      | _ => none
    else if c = ':' ∧ cs.head? = some ':' then
      match cs with
      | _ :: rest => parameterName? named rest
      | [] => none
    else if named then some (c :: cs)
    else none

/-- The marks of two characters or more, longer ones first. -/
def longMarks : List String := ["->>", "->", "==", "<=", "<>", "<<", ">=", ">>", "!=", "||"]

/-- The marks of one character. -/
def shortMarks : List Char :=
  ['-', '(', ')', ';', '+', '*', '/', '%', '=', '<', '>', '|', ',', '&', '~', '.']

/-- The mark that a text begins with; those that mean the same are taken for one. -/
def markOf? (cs : List Char) : Option (Lexeme × List Char) :=
  match longMarks.find? fun m => m.toList.isPrefixOf cs with
  | some m =>
    let plain := if m = "==" then "=" else if m = "!=" then "<>" else m
    some (.mark plain, cs.drop m.length)
  | none =>
    match cs with
    | c :: rest => if shortMarks.contains c then some (.mark (String.singleton c), rest) else none
    | [] => none

/-- The token that a text begins with, and what follows it; the text begins with no blank. -/
def lexeme? (cs : List Char) : Option (Lexeme × List Char) :=
  match cs with
  | [] => none
  | c :: rest =>
    if c = '\'' then (quotation? c rest).map fun (content, rest) => (.string content, rest)
    else if c = '"' ∨ c = '\x60' then
      (quotation? c rest).map fun (content, rest) => (.quoted content (c == '"'), rest)
    else if c = '[' then
      match rest.dropWhile fun c => c != ']' with
      | _ :: behind => some (.quoted (rest.takeWhile fun c => c != ']') false, behind)
      | [] => none
    else if Decimal.isDigit c ∨ (c = '.' ∧ rest.head?.any Decimal.isDigit) then number? cs
    else if c = '?' then some (.parameter, rest.dropWhile Decimal.isDigit)
    else if c = '$' ∨ c = '@' ∨ c = '#' ∨ c = ':' then
      (parameterName? false rest).map fun rest => (.parameter, rest)
    else if (c = 'x' ∨ c = 'X') ∧ rest.head? = some '\'' then
      let digits := (rest.drop 1).takeWhile fun c => (Hex.value? c).isSome
      match (rest.drop 1).drop digits.length with
      | '\'' :: behind => if digits.length % 2 = 0 then some (.blob digits, behind) else none
      | _ => none
    else if isNameChar c then
      let letters := (cs.takeWhile isNameChar).map Char.toLower
      some (.word (String.ofList letters), cs.dropWhile isNameChar)
    else markOf? cs

/-- The tokens of a text, of which there are at most so many. -/
def tokensOnto : Nat → List Char → List Token
  | 0, _ => []
  | left + 1, cs =>
    let start := skipGap (cs.length + 1) cs
    let gap := cs.take (cs.length - start.length)
    if start.isEmpty then []
    else
      match lexeme? start with
      | some (lexeme, rest) =>
        { lexeme, text := start.take (start.length - rest.length), gap } :: tokensOnto left rest
      | none => [{ lexeme := .unknown, text := start, gap }]

/-- The tokens of a text. -/
def tokens (cs : List Char) : List Token := tokensOnto (cs.length + 1) cs

end Sql

end Database

end InFlight
