import InFlight.Database.Collation
import InFlight.Database.Query.Arithmetic
import InFlight.Database.Query.Pattern
import InFlight.Text.Hex

/-!
# Calls of functions

What a function gives for its arguments.  Most of them give nothing when an argument is nothing.
Texts are taken up to a zero; their letters are those of ASCII as far as case is concerned, and
their characters are counted, not their bytes.

Only the functions that columns are commonly made with are known here.

## Main definitions

* `InFlight.Database.Value.points` — the characters of a value.
* `InFlight.Database.call?` — what a function gives.
-/

set_option relaxedAutoImplicit false
set_option autoImplicit false

namespace InFlight

namespace Database

namespace Value

/-! ## Characters -/

/-- The characters of a value as a text up to a zero, by their numbers. -/
def points (form : TextForm) (v : Value) : List Nat :=
  (Utf8.points (form.toUtf8 (v.bytesAsText form))).takeWhile fun n => n != 0

/-- The text of characters by their numbers. -/
def ofPoints (form : TextForm) (ns : List Nat) : Value := text (form.ofUtf8 (Utf8.ofPoints ns))

/-- A letter of ASCII as a great one, by its number. -/
def great (n : Nat) : Nat := if 97 ≤ n ∧ n ≤ 122 then n - 32 else n

/-- A value as an integer of thirty-two bits. -/
def toShort (form : TextForm) (v : Value) : Int := (v.toInt form).bmod (Nat.pow 2 32)

/-- Mere bytes. -/
def blob? : Value → Option (List UInt8)
  | blob bytes => some bytes
  | _ => none

/-- The name of the kind of a value. -/
def kindName : Value → String
  | null => "null"
  | integer _ => "integer"
  | real _ => "real"
  | text _ => "text"
  | blob _ => "blob"

/-! ## Parts of texts -/

/-- A part of something: from a place on, counted from one, or from the end when it is below zero;
so many items, or so many before the place when that is below zero. -/
def part {α : Type} (items : List α) (start : Int) (count : Option Int) : List α :=
  let length : Int := items.length
  let room : Int := 1000000000
  let asked : Int := match count with
    | some n => n.natAbs
    | none => room
  -- what is asked for before the first item is lost
  let (start, asked) :=
    if start < 0 then
      if start + length < 0 then (0, max 0 (asked + (start + length))) else (start + length, asked)
    else if 0 < start then (start - 1, asked)
    else (0, if 0 < asked then asked - 1 else 0)
  let (start, asked) :=
    if count.any fun n => decide (n < 0) then
      if start < asked then (0, start) else (start - asked, asked)
    else (start, asked)
  (items.drop start.toNat).take asked.toNat

/-- Items without those at the start that are among others. -/
def trimStart (set items : List Nat) : List Nat := items.dropWhile set.contains

/-- Items without those at the end that are among others. -/
def trimEnd (set items : List Nat) : List Nat := (items.reverse.dropWhile set.contains).reverse

/-- Where a list first stands within another one, counted from one; zero if it does not. -/
def placeOf {α : Type} [BEq α] (needle : List α) : List α → Nat → Nat
  | [], place => if needle.isEmpty then place else 0
  | a :: as, place =>
    if needle.isPrefixOf (a :: as) then place else placeOf needle as (place + 1)

/-- A list with another one in place of a third one, from the left; at most so many items. -/
def replaced {α : Type} [BEq α] (needle new : List α) : Nat → List α → List α
  | 0, items => items
  | _, [] => []
  | left + 1, a :: as =>
    if needle.isPrefixOf (a :: as) then
      new ++ replaced needle new left ((a :: as).drop needle.length)
    else a :: replaced needle new left as

/-! ## Numbers -/

/-- The greatest and the least of values, of which later ones count when they are as good. -/
def best (form : TextForm) (c : Collation) (greatest : Bool) (v : Value) (vs : List Value) : Value :=
  vs.foldl
    (fun best w =>
      match best.compare form c w with
      | .lt => if greatest then w else best
      | .eq => if greatest then best else w
      | .gt => if greatest then best else w)
    v

/-- A number without its sign; none for the least integer. -/
def abs? (form : TextForm) : Value → Option Value
  | null => some null
  | integer i => if fits i.natAbs then some (integer i.natAbs) else none
  | v =>
    let r := v.toReal form
    some (ofReal (if r.isNegative && !r.isZero then r.neg else r))

/-- A real number without what stands behind its point, rounded. -/
def roundWhole (r : Real) : Real :=
  let bound : Int := Int.pow 2 52
  if r.compareInt bound != .lt || r.compareInt (-bound) != .gt then r
  else
    let twice := 2 * r.ratio.1 + r.ratio.2
    let size : Int := twice / (2 * r.ratio.2)
    Real.ofInt (if r.isNegative then -size else size)

/-- The number that a value is, but only if it is one as a whole. -/
def wholeNumber? (form : TextForm) : Value → Option Value
  | integer i => some (integer i)
  | real r => some (real r)
  | text bytes => Numeral.value? (chars form bytes)
  | _ => none

/-- The sign of a number; nothing for what is none. -/
def sign (form : TextForm) (v : Value) : Value :=
  match v.wholeNumber? form with
  | some n =>
    match n.compare form .binary (integer 0) with
    | .lt => integer (-1)
    | .eq => integer 0
    | .gt => integer 1
  | none => null

/-- The length of a value: the characters of a text, or the bytes of mere bytes. -/
def size (form : TextForm) : Value → Value
  | null => null
  | blob bytes => integer bytes.length
  | v => integer (v.points form).length

/-- The digits of bytes in great letters. -/
def hexOf (bytes : List UInt8) : List Nat :=
  bytes.flatMap fun b => (Hex.byteDigits b).map fun c => c.toUpper.toNat

/-- A text matches a pattern; none if the character that takes away meanings is not one. -/
def likeness? (form : TextForm) (pattern v : Value) (escape : Option Value) : Option Value :=
  if pattern.isNull || v.isNull || escape.any isNull then some null
  else
    let escape? := escape.map fun e => e.points form
    match escape? with
    | some [c] => some (matched (Pattern.like (some c) (pattern.points form)))
    | some _ => none
    | none => some (matched (Pattern.like none (pattern.points form)))
where
  /-- Whether the text matches. -/
  matched (p : Option Pattern) : Value :=
    ofTruth (some (p.any fun p => p.covers (v.points form)))

end Value

/-! ## Functions -/

open Value (null integer ofPoints ofTruth)

/-- What a function of one value gives, unless that is nothing. -/
def callOne? (form : TextForm) (name : String) (v : Value) : Option Value :=
  match name with
  | "abs" => v.abs? form
  | "hex" => some (ofPoints form (Value.hexOf (form.toUtf8 (v.bytesAsText form))))
  | "length" => some (v.size form)
  | "octet_length" => some (integer (v.bytesAsText form).length)
  | "lower" => some (ofPoints form ((v.points form).map Pattern.small))
  | "upper" => some (ofPoints form ((v.points form).map Value.great))
  | "sign" => some (v.sign form)
  | "unicode" => some ((v.points form).head?.elim null fun n => integer n)
  | "round" =>
    some (Value.ofReal (Value.roundWhole (v.toReal form)))
  | "trim" => some (ofPoints form (Value.trimEnd [32] (Value.trimStart [32] (v.points form))))
  | "ltrim" => some (ofPoints form (Value.trimStart [32] (v.points form)))
  | "rtrim" => some (ofPoints form (Value.trimEnd [32] (v.points form)))
  | _ => none

/-- A part of a value: of the bytes of mere bytes, or of the characters of a text. -/
def partOf (form : TextForm) (v start : Value) (count : Option Value) : Value :=
  let count := count.map fun c => c.toShort form
  match v.blob? with
  | some bytes => .blob (Value.part bytes (start.toShort form) count)
  | none => ofPoints form (Value.part (v.points form) (start.toShort form) count)

/-- What a function of several values gives, unless one of them is nothing. -/
def callSeveral? (form : TextForm) (name : String) (args : List Value) : Option Value :=
  match name, args with
  | "substr", [v, start] | "substring", [v, start] => some (partOf form v start none)
  | "substr", [v, start, count] | "substring", [v, start, count] =>
    some (partOf form v start (some count))
  | "trim", [v, set] =>
    some (ofPoints form (Value.trimEnd (set.points form)
      (Value.trimStart (set.points form) (v.points form))))
  | "ltrim", [v, set] => some (ofPoints form (Value.trimStart (set.points form) (v.points form)))
  | "rtrim", [v, set] => some (ofPoints form (Value.trimEnd (set.points form) (v.points form)))
  | "instr", [v, needle] =>
    match v.blob?, needle.blob? with
    | some a, some b => some (integer (Value.placeOf b a 1))
    | _, _ => some (integer (Value.placeOf (needle.points form) (v.points form) 1))
  | "replace", [v, needle, new] =>
    let ns := v.points form
    if (needle.points form).isEmpty then some (ofPoints form ns)
    else
      some (ofPoints form (Value.replaced (needle.points form) (new.points form) ns.length ns))
  | "round", [v, digits] =>
    if digits.toInt form ≤ 0 then some (Value.ofReal (Value.roundWhole (v.toReal form))) else none
  | "like", [pattern, v] => Value.likeness? form pattern v none
  | "like", [pattern, v, escape] => Value.likeness? form pattern v (some escape)
  | "glob", [pattern, v] =>
    some (ofTruth (some ((Pattern.glob (pattern.points form)).any fun p => p.covers (v.points form))))
  | _, [v] => callOne? form name v
  | _, _ => none

/-- The texts of values one after the other, with a text between each two. -/
def joined (form : TextForm) (between : List UInt8) (vs : List Value) : Value :=
  .text (between.intercalate ((vs.filter fun v => !v.isNull).map fun v => v.bytesAsText form))

/-- What a function gives; its name is in small letters, and texts are compared by a collation.
None where it fails or is not known. -/
def call? (form : TextForm) (c : Collation) (name : String) (args : List Value) : Option Value :=
  match name, args with
  | "likely", v :: _ | "unlikely", v :: _ | "likelihood", v :: _ => some v
  | "nullif", [v, w] => some (if v.compare form c w = .eq then null else v)
  | "typeof", [v] => some (.text (form.ofUtf8 (Utf8.encode v.kindName)))
  | "hex", [.null] => some (.text [])
  | "char", args =>
    some (ofPoints form (args.map fun v =>
      let n := v.toInt form
      if n < 0 ∨ 0x10ffff < n then 0xfffd else n.toNat))
  | "concat", args => some (joined form [] args)
  | "concat_ws", between :: args =>
    some (if between.isNull then null else joined form (between.bytesAsText form) args)
  | name, args =>
    if args.any Value.isNull then some null
    else
      match name, args with
      | "max", v :: vs => some (Value.best form c true v vs)
      | "min", v :: vs => some (Value.best form c false v vs)
      | name, args => callSeveral? form name args

end Database

end InFlight
