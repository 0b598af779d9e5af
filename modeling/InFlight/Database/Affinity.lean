import InFlight.Database.Numeral

/-!
# The affinity of columns

A column takes values of every kind, but it has an affinity to some: numbers become texts in a
column of texts, and texts that are numbers become numbers in a column of numbers.  The affinity
follows from words within the type that a column is declared with.

Two values are compared under the affinity of the column that one of them stands in.

## Main definitions

* `InFlight.Database.Affinity` — the affinities.
* `InFlight.Database.Affinity.ofType` — the affinity of a declared type.
* `InFlight.Database.Affinity.convert` — what a value becomes in a column.
* `InFlight.Database.Affinity.level` — what two values become before they are compared.
-/

set_option relaxedAutoImplicit false
set_option autoImplicit false

namespace InFlight

namespace Database

/-- What a column has an affinity to; mere bytes stand for none. -/
inductive Affinity where
  | blob
  | text
  | numeric
  | integer
  | real
deriving DecidableEq, Repr

namespace Value

/-- A number as a text of a file; all else stays as it is. -/
def spelled (form : TextForm) : Value → Value
  | integer i => text (form.ofUtf8 (Utf8.encode (toString i)))
  | real r => text (form.ofUtf8 (Utf8.encode r.text))
  | v => v

/-- The characters of a text of a file, byte by byte in the usual form. -/
def chars (form : TextForm) (bytes : List UInt8) : List Char := Text.ofBytes (form.toUtf8 bytes)

/-- A text that is a number as that number; all else stays as it is. -/
def counted (form : TextForm) : Value → Value
  | text bytes => (Numeral.value? (chars form bytes)).getD (text bytes)
  | v => v

/-- A real number that is an integer as that integer; all else stays as it is.  The least and the
greatest integer of sixty-four bits do not count. -/
def wholly : Value → Value
  | real r =>
    match r.toInt? with
    | some i => if -(Int.pow 2 63) < i ∧ i < Int.pow 2 63 - 1 then integer i else real r
    | none => real r
  | v => v

/-- An integer as a real number; all else stays as it is. -/
def really : Value → Value
  | integer i => real (Real.ofInt i)
  | v => v

end Value

namespace Affinity

/-! ## Declared types -/

/-- The words within a type that decide its affinity. -/
inductive Word where
  | char
  | clob
  | text
  | blob
  | real
  | floa
  | doub
  | int
deriving DecidableEq, Repr

/-- How a word is written. -/
def Word.letters : Word → List Char
  | char => "char".toList
  | clob => "clob".toList
  | text => "text".toList
  | blob => "blob".toList
  | real => "real".toList
  | floa => "floa".toList
  | doub => "doub".toList
  | int => "int".toList

/-- The word that a text in small letters begins with. -/
def Word.begins? (cs : List Char) : Option Word :=
  [char, clob, text, blob, real, floa, doub, int].find? fun w => w.letters.isPrefixOf cs

/-- What a type has come to with one more word in it. -/
def after (a : Affinity) (w : Word) : Affinity :=
  match w, a with
  | .int, _ => integer
  | .char, _ | .clob, _ | .text, _ => text
  | .blob, numeric | .blob, real => blob
  | .real, numeric | .floa, numeric | .doub, numeric => real
  | _, a => a

/-- What a type in small letters comes to; the first word for integers decides. -/
def ofLetters (a : Affinity) : List Char → Affinity
  | [] => a
  | c :: cs =>
    match Word.begins? (c :: cs) with
    | some .int => integer
    | some w => ofLetters (a.after w) cs
    | none => ofLetters a cs

/-- The affinity of a declared type. -/
def ofType (type : String) : Affinity := ofLetters numeric (type.toList.map Char.toLower)

/-! ## Values in columns -/

/-- An affinity to numbers. -/
def isNumeric : Affinity → Bool
  | numeric | integer | real => true
  | blob | text => false

/-- What a value becomes in a column; a column of real numbers has no integers. -/
def convert (form : TextForm) (a : Affinity) (v : Value) : Value :=
  match a with
  | blob => v
  | text => v.spelled form
  | numeric | integer => (v.counted form).wholly
  | real => (v.counted form).wholly.really

/-- What two values become before they are compared under an affinity.  Numbers become texts only
beside a text. -/
def level (form : TextForm) (a : Affinity) (v w : Value) : Value × Value :=
  match a with
  | blob => (v, w)
  | text =>
    match v, w with
    | .text _, _ | _, .text _ => (v.spelled form, w.spelled form)
    | _, _ => (v, w)
  | numeric | integer | real => (v.counted form, w.counted form)

end Affinity

end Database

end InFlight
