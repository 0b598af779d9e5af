import InFlight.Text.Blank
import InFlight.Text.Decimal
import InFlight.Text.Percent
import InFlight.Text.Split
import InFlight.Text.Utf8

/-!
# Query parameters

A query is a list of assignments separated by ampersands.  In keys and values a plus sign
stands for a space, and a percent sign with two hexadecimal digits for a byte; bytes that are
not UTF-8 are replaced.  Of several assignments to one key the last one counts.

## Main definitions

* `InFlight.Query.parse` — the assignments of a query.
* `InFlight.Query.value?` — the value of a key.
* `InFlight.Query.number` — that value as a number, zero when there is none.
-/

set_option relaxedAutoImplicit false
set_option autoImplicit false

namespace InFlight

/-- The assignments of a query in order. -/
abbrev Query := List (String × String)

namespace Query

/-! ## Decoding -/

/-- Bytes with a space for every plus sign. -/
def plusToSpace (bytes : List UInt8) : List UInt8 :=
  bytes.map fun b => if b = 0x2B then 0x20 else b

/-- The text of a key or a value. -/
def decode (bytes : List UInt8) : String := Utf8.decodeLossy (Text.percentDecode (plusToSpace bytes))

/-- One assignment: the key before the first equals sign and the value behind it, which is
empty when there is no equals sign. -/
def assignment (bytes : List UInt8) : String × String :=
  let (key, value) := Text.cutList 0x3D bytes
  (decode key, decode (value.getD []))

/-- The assignments of a query. -/
def parse (query : String) : Query :=
  ((Text.splitList 0x26 (Utf8.encode query)).filter fun part => !part.isEmpty).map assignment

/-! ## Asking for a key -/

/-- The value of a key: that of its last assignment. -/
def value? (q : Query) (key : String) : Option String := q.reverse.lookup key

/-- The value of a key as a 64-bit number, with blanks around it dropped; zero when the key is
missing or its value is no such number. -/
def number (q : Query) (key : String) : Int :=
  ((q.value? key).bind fun value => Decimal.int64? (Text.trim value)).getD 0

end Query

end InFlight
