/-!
# UTF-8 with replacement

Percent-decoded bytes need not be UTF-8.  They are read by a machine that takes one byte at a
time: between characters, or inside a character of which some continuation bytes are still
owed.  When the next byte cannot continue the character, the bytes read of it become one
U+FFFD and the byte is looked at afresh; so each longest beginning of a character that is cut
short gives one replacement, and so does every byte that cannot begin a character.

## Main definitions

* `InFlight.Utf8.State` — where the machine stands.
* `InFlight.Utf8.decodeLossy` — the text of a byte string.
* `InFlight.Utf8.points`, `InFlight.Utf8.ofPoints` — bytes and code points, without a check.

## Main results

* `InFlight.Utf8.decode?_eq_some_iff` — bytes are read as the text that they write.
-/

set_option relaxedAutoImplicit false
set_option autoImplicit false

namespace InFlight

namespace Utf8

/-- Where the machine stands between two bytes. -/
inductive State where
  /-- Between two characters. -/
  | between
  /-- Inside a character: the bits read of it, how many continuation bytes are still owed,
  and the least and the greatest byte that the next one may be. -/
  | inside (bits owed low high : Nat)
deriving DecidableEq, Repr

/-- The character that stands for what cannot be read. -/
def replacement : Char := '\uFFFD'

/-- The state after the first byte of a character, with the character if that is all of it;
none when no character begins with this byte. -/
def first (b : Nat) : Option (State × List Char) :=
  if b < 0x80 then some (.between, [Char.ofNat b])
  else if 0xC2 ≤ b ∧ b ≤ 0xDF then some (.inside (b - 0xC0) 1 0x80 0xBF, [])
  else if b = 0xE0 then some (.inside 0 2 0xA0 0xBF, [])
  else if b = 0xED then some (.inside (b - 0xE0) 2 0x80 0x9F, [])
  else if 0xE1 ≤ b ∧ b ≤ 0xEF then some (.inside (b - 0xE0) 2 0x80 0xBF, [])
  else if b = 0xF0 then some (.inside 0 3 0x90 0xBF, [])
  else if 0xF1 ≤ b ∧ b ≤ 0xF3 then some (.inside (b - 0xF0) 3 0x80 0xBF, [])
  else if b = 0xF4 then some (.inside 4 3 0x80 0x8F, [])
  else none

/-- A byte looked at between two characters. -/
def afresh (b : Nat) : State × List Char :=
  (first b).getD (.between, [replacement])

/-- One byte: the state after it and the characters it completes. -/
def step (s : State) (b : Nat) : State × List Char :=
  match s with
  | .between => afresh b
  | .inside bits owed low high =>
    if low ≤ b ∧ b ≤ high then
      let bits := 64 * bits + (b - 0x80)
      if owed ≤ 1 then (.between, [Char.ofNat bits])
      else (.inside bits (owed - 1) 0x80 0xBF, [])
    else
      let (s, cs) := afresh b
      (s, replacement :: cs)

/-- The characters read from a state, followed by a replacement when the bytes end inside a
character. -/
def run : State → List UInt8 → List Char
  | .between, [] => []
  | .inside .., [] => [replacement]
  | s, b :: bs =>
    let (s, cs) := step s b.toNat
    cs ++ run s bs

/-- The text of a byte string, with U+FFFD for what is not UTF-8. -/
def decodeLossy (bytes : List UInt8) : String := String.ofList (run .between bytes)

/-- The bytes of a text. -/
def encode (s : String) : List UInt8 := s.toUTF8.toList

/-- The text of a byte string, if it is UTF-8. -/
def decode? (bytes : ByteArray) : Option String := String.fromUTF8? bytes

/-- The text that bytes are read as is the one that they write. -/
theorem decode?_eq_some_iff {bytes : ByteArray} {s : String} :
    decode? bytes = some s ↔ s.toUTF8 = bytes := by
  unfold decode? String.fromUTF8?
  constructor
  · intro h
    split at h
    · cases h
      rfl
    · cases h
  · rintro rfl
    exact dif_pos s.isValidUTF8

theorem decode?_toUTF8 (s : String) : decode? s.toUTF8 = some s := decode?_eq_some_iff.2 rfl

/-! ## Code points without a check -/

/-- A byte goes on with a character. -/
def isContinuation (b : UInt8) : Bool := decide (b.toNat / 64 = 2)

/-- What the first byte of a character holds of it. -/
def lead (b : Nat) : Nat :=
  if b < 0xC0 then b
  else if b < 0xE0 then b % 0x20
  else if b < 0xF0 then b % 0x10
  else if b < 0xF8 then b % 8
  else if b < 0xFC then b % 4
  else if b < 0xFE then b % 2
  else 0

/-- A code point, or the replacement for one that is no character or was written at more than
its length. -/
def checkedPoint (p : Nat) : Nat :=
  if p < 0x80 ∨ (0xD800 ≤ p ∧ p < 0xE000) ∨ p / 2 = 0x7FFF then 0xFFFD else p

/-- The code points that bytes write, of which there are at most so many: each goes on as long
as the bytes do. -/
def pointsOnto : Nat → List UInt8 → List Nat
  | 0, _ | _, [] => []
  | left + 1, b :: bs =>
    if b.toNat < 0xC0 then b.toNat :: pointsOnto left bs
    else
      let value := (bs.takeWhile isContinuation).foldl
        (fun value b => (64 * value + b.toNat % 64) % Nat.pow 2 32) (lead b.toNat)
      checkedPoint value :: pointsOnto left (bs.dropWhile isContinuation)

/-- The code points that bytes write. -/
def points (bytes : List UInt8) : List Nat := pointsOnto bytes.length bytes

/-- The bytes that write a code point. -/
def ofPoint (p : Nat) : List UInt8 :=
  let continuation (n : Nat) : UInt8 := UInt8.ofNat (0x80 + n % 64)
  if p < 0x80 then [UInt8.ofNat p]
  else if p < 0x800 then [UInt8.ofNat (0xC0 + p / 64), continuation p]
  else if p < 0x10000 then
    [UInt8.ofNat (0xE0 + p / 64 / 64), continuation (p / 64), continuation p]
  else
    [UInt8.ofNat (0xF0 + p / 64 / 64 / 64 % 8), continuation (p / 64 / 64), continuation (p / 64),
      continuation p]

/-- The bytes that write code points. -/
def ofPoints (points : List Nat) : List UInt8 := points.flatMap ofPoint

end Utf8

end InFlight
