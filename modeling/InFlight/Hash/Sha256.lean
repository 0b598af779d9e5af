/-!
# SHA-256 as an accumulator

A message is *absorbed* piece by piece and the digest of everything absorbed so far can be
read off at any time without disturbing the accumulator.  Absorbing whole blocks of 64 bytes
folds the compression function over them; the bytes that do not fill a block wait in
`pending`.

## Main definitions

* `InFlight.Sha256.Words` — the eight chaining words; `Words.compress` feeds one block.
* `InFlight.Sha256` — the accumulator; `Sha256.start`, `Sha256.absorb`, `Sha256.digest`.
* `InFlight.Sha256.hash` — the digest of one message, padded as a whole.

## Design

Reading a byte past the end of a buffer gives zero (`byteAt`), so every function here is
total; `foldBlocks` only ever asks for the blocks that lie inside its buffer.
-/

set_option relaxedAutoImplicit false
set_option autoImplicit false

namespace InFlight

namespace Sha256

/-! ## Bytes and words -/

/-- Byte `i` of a buffer, zero past its end. -/
def byteAt (buffer : ByteArray) (i : Nat) : UInt8 :=
  if h : i < buffer.size then buffer[i] else 0

/-- The big-endian word whose first byte stands at position `i`. -/
def wordAt (buffer : ByteArray) (i : Nat) : UInt32 :=
  ((byteAt buffer i).toUInt32 <<< 24) ||| ((byteAt buffer (i + 1)).toUInt32 <<< 16) |||
    ((byteAt buffer (i + 2)).toUInt32 <<< 8) ||| (byteAt buffer (i + 3)).toUInt32

/-- A word rotated to the right by `n` places, for `0 < n < 32`. -/
def rotateRight (x n : UInt32) : UInt32 :=
  (x >>> n) ||| (x <<< (32 - n))

/-- The four bytes of a word, most significant first. -/
def wordBytes (w : UInt32) : List UInt8 :=
  [(w >>> 24).toUInt8, (w >>> 16).toUInt8, (w >>> 8).toUInt8, w.toUInt8]

/-! ## The compression function -/

/-- The eight chaining words. -/
structure Words where
  a : UInt32
  b : UInt32
  c : UInt32
  d : UInt32
  e : UInt32
  f : UInt32
  g : UInt32
  h : UInt32
deriving DecidableEq, Repr

/-- The chaining words before any block. -/
def Words.initial : Words where
  a := 0x6a09e667
  b := 0xbb67ae85
  c := 0x3c6ef372
  d := 0xa54ff53a
  e := 0x510e527f
  f := 0x9b05688c
  g := 0x1f83d9ab
  h := 0x5be0cd19

/-- The sixty-four round constants. -/
def roundConstants : Array UInt32 := #[
  0x428a2f98, 0x71374491, 0xb5c0fbcf, 0xe9b5dba5, 0x3956c25b, 0x59f111f1, 0x923f82a4, 0xab1c5ed5,
  0xd807aa98, 0x12835b01, 0x243185be, 0x550c7dc3, 0x72be5d74, 0x80deb1fe, 0x9bdc06a7, 0xc19bf174,
  0xe49b69c1, 0xefbe4786, 0x0fc19dc6, 0x240ca1cc, 0x2de92c6f, 0x4a7484aa, 0x5cb0a9dc, 0x76f988da,
  0x983e5152, 0xa831c66d, 0xb00327c8, 0xbf597fc7, 0xc6e00bf3, 0xd5a79147, 0x06ca6351, 0x14292967,
  0x27b70a85, 0x2e1b2138, 0x4d2c6dfc, 0x53380d13, 0x650a7354, 0x766a0abb, 0x81c2c92e, 0x92722c85,
  0xa2bfe8a1, 0xa81a664b, 0xc24b8b70, 0xc76c51a3, 0xd192e819, 0xd6990624, 0xf40e3585, 0x106aa070,
  0x19a4c116, 0x1e376c08, 0x2748774c, 0x34b0bcb5, 0x391c0cb3, 0x4ed8aa4a, 0x5b9cca4f, 0x682e6ff3,
  0x748f82ee, 0x78a5636f, 0x84c87814, 0x8cc70208, 0x90befffa, 0xa4506ceb, 0xbef9a3f7, 0xc67178f2]

/-- The schedule word that follows the words `w` (at least sixteen of them). -/
def nextScheduleWord (w : Array UInt32) : UInt32 :=
  let n := w.size
  let x := w.getD (n - 15) 0
  let y := w.getD (n - 2) 0
  let mixX := rotateRight x 7 ^^^ rotateRight x 18 ^^^ (x >>> 3)
  let mixY := rotateRight y 17 ^^^ rotateRight y 19 ^^^ (y >>> 10)
  w.getD (n - 16) 0 + mixX + w.getD (n - 7) 0 + mixY

/-- A schedule with `n` further words. -/
def extendSchedule : Nat → Array UInt32 → Array UInt32
  | 0, w => w
  | n + 1, w => extendSchedule n (w.push (nextScheduleWord w))

/-- The sixty-four schedule words of the block that starts at byte `offset`. -/
def schedule (buffer : ByteArray) (offset : Nat) : Array UInt32 :=
  extendSchedule 48 ((Array.range 16).map fun i => wordAt buffer (offset + 4 * i))

/-- One round, with round constant `k` and schedule word `w`. -/
def Words.round (s : Words) (k w : UInt32) : Words :=
  let mixE := rotateRight s.e 6 ^^^ rotateRight s.e 11 ^^^ rotateRight s.e 25
  let choice := (s.e &&& s.f) ^^^ (~~~s.e &&& s.g)
  let t := s.h + mixE + choice + k + w
  let mixA := rotateRight s.a 2 ^^^ rotateRight s.a 13 ^^^ rotateRight s.a 22
  let majority := (s.a &&& s.b) ^^^ (s.a &&& s.c) ^^^ (s.b &&& s.c)
  { a := t + mixA + majority, b := s.a, c := s.b, d := s.c,
    e := s.d + t, f := s.e, g := s.f, h := s.g }

/-- The rounds that remain when `n` of the sixty-four are still to do. -/
def Words.rounds (w : Array UInt32) : Nat → Words → Words
  | 0, s => s
  | n + 1, s => Words.rounds w n (s.round (roundConstants.getD (63 - n) 0) (w.getD (63 - n) 0))

/-- Word by word addition modulo `2 ^ 32`. -/
def Words.add (s t : Words) : Words where
  a := s.a + t.a
  b := s.b + t.b
  c := s.c + t.c
  d := s.d + t.d
  e := s.e + t.e
  f := s.f + t.f
  g := s.g + t.g
  h := s.h + t.h

/-- The chaining words after the block of `buffer` that starts at byte `offset`. -/
def Words.compress (s : Words) (buffer : ByteArray) (offset : Nat) : Words :=
  s.add (Words.rounds (schedule buffer offset) 64 s)

/-- The chaining words after `n` consecutive blocks of `buffer`, the first at byte `offset`. -/
def Words.foldBlocks (buffer : ByteArray) : Nat → Nat → Words → Words
  | 0, _, s => s
  | n + 1, offset, s => Words.foldBlocks buffer n (offset + 64) (s.compress buffer offset)

/-- The chaining words as thirty-two bytes. -/
def Words.toBytes (s : Words) : ByteArray :=
  ⟨([s.a, s.b, s.c, s.d, s.e, s.f, s.g, s.h].flatMap wordBytes).toArray⟩

/-! ## Padding -/

/-- The length in bits of a message of `size` bytes, as eight big-endian bytes. -/
def lengthBytes (size : Nat) : ByteArray :=
  ⟨((List.range 8).map fun i => (8 * size / Nat.pow 256 (7 - i)).toUInt8).toArray⟩

/-- What follows a message of `size` bytes: the byte `0x80`, as many zeros as complete a
block together with the length, and the length. -/
def padding (size : Nat) : ByteArray :=
  ByteArray.mk (#[0x80] ++ Array.replicate ((119 - size % 64) % 64) 0) ++ lengthBytes size

/-- The digest of a message: the compression function folded over its padded blocks. -/
def hash (message : ByteArray) : ByteArray :=
  let padded := message ++ padding message.size
  (Words.foldBlocks padded (padded.size / 64) 0 Words.initial).toBytes

end Sha256

/-! ## The accumulator -/

/-- Everything absorbed so far: the chaining words of its whole blocks, the bytes that do not
fill a block, and how many bytes there were in all. -/
structure Sha256 where
  words : Sha256.Words := .initial
  pending : ByteArray := .empty
  length : Nat := 0

namespace Sha256

/-- The accumulator that has absorbed nothing. -/
def start : Sha256 := {}

/-- The accumulator after `piece` as well. -/
def absorb (s : Sha256) (piece : ByteArray) : Sha256 :=
  let buffer := s.pending ++ piece
  let full := buffer.size / 64
  { words := Words.foldBlocks buffer full 0 s.words
    pending := buffer.extract (64 * full) buffer.size
    length := s.length + piece.size }

/-- The digest of everything absorbed so far. -/
def digest (s : Sha256) : ByteArray :=
  let rest := s.pending ++ padding s.length
  (Words.foldBlocks rest (rest.size / 64) 0 s.words).toBytes

end Sha256

end InFlight
