import InFlight.Database.Real
import InFlight.Text.Utf16

/-!
# Values

A value is nothing, a number, a text or mere bytes.  A text is kept as the bytes that write it
in its file: all texts of a file are written in the same form.

Values that are known to be texts of a file are read leniently where they are compared or taken
apart, and strictly where they leave the library.

## Main definitions

* `InFlight.Database.Value` — a value.
* `InFlight.Database.TextForm` — how the texts of a file are written.
* `InFlight.Database.TextForm.decode?` — the text that bytes write.
* `InFlight.Database.TextForm.toUtf8`, `InFlight.Database.TextForm.ofUtf8` — the same text in
  the usual form.
-/

set_option relaxedAutoImplicit false
set_option autoImplicit false

namespace InFlight

namespace Database

/-- A value; a text by the bytes that write it. -/
inductive Value where
  | null
  | integer (i : Int)
  | real (r : Real)
  | text (bytes : List UInt8)
  | blob (bytes : List UInt8)
deriving DecidableEq, Repr

namespace Value

/-- The value of a text in the usual form. -/
def ofText (s : String) : Value := .text (Utf8.encode s)

/-- The value of a real number; what is no number is nothing. -/
def ofReal (r : Real) : Value := if r.isNone then null else real r

/-- The integer that a value is. -/
def integer? : Value → Option Int
  | integer i => some i
  | _ => none

end Value

/-- How the texts of a file are written. -/
inductive TextForm where
  | utf8
  | utf16 (bigEndian : Bool)
deriving DecidableEq, Repr

namespace TextForm

/-- The text that bytes write; none for bytes that write none. -/
def decode? (form : TextForm) (bytes : List UInt8) : Option String :=
  match form with
  | utf8 => Utf8.decode? ⟨bytes.toArray⟩
  | utf16 bigEndian => Utf16.decode? bigEndian bytes

/-- The bytes of a text of a file in UTF-8. -/
def toUtf8 (form : TextForm) (bytes : List UInt8) : List UInt8 :=
  match form with
  | utf8 => bytes
  | utf16 bigEndian => Utf8.ofPoints (Utf16.points (Utf16.units bigEndian bytes))

/-- The bytes of a text in UTF-8 as a file writes it. -/
def ofUtf8 (form : TextForm) (bytes : List UInt8) : List UInt8 :=
  match form with
  | utf8 => bytes
  | utf16 bigEndian => Utf16.bytes bigEndian (Utf16.ofPoints (Utf8.points bytes))

end TextForm

end Database

end InFlight
