/-!
# Numbers as bytes

Database files write numbers with the most significant byte first: in a fixed number of bytes,
or in as few groups of seven bits as are needed.  Every byte of the latter but the last has its
high bit set.  A number that needs more than eight groups takes nine bytes, the last of which
holds eight bits.

## Main definitions

* `InFlight.Database.natOf`, `InFlight.Database.bytesOf` — a fixed number of bytes.
* `InFlight.Database.intOf`, `InFlight.Database.bytesOfInt` — the same for signed numbers.
* `InFlight.Database.varint` — groups of seven bits.
* `InFlight.Database.natAt`, `InFlight.Database.varintAt` — numbers at a position of a page.
-/

set_option relaxedAutoImplicit false
set_option autoImplicit false

namespace InFlight

namespace Database

/-! ## A fixed number of bytes -/

/-- The number that bytes write. -/
def natOf (bytes : List UInt8) : Nat := bytes.foldl (fun n b => 256 * n + b.toNat) 0

/-- A number in so many bytes. -/
def bytesOf : Nat → Nat → List UInt8
  | 0, _ => []
  | size + 1, n => bytesOf size (n / 256) ++ [UInt8.ofNat n]

/-- The signed number that bytes write. -/
def intOf (bytes : List UInt8) : Int := (natOf bytes : Int).bmod (Nat.pow 256 bytes.length)

/-- A signed number in so many bytes. -/
def bytesOfInt (size : Nat) (i : Int) : List UInt8 := bytesOf size (i % Int.pow 256 size).toNat

/-! ## Groups of seven bits -/

/-- So many groups of a number, each in a byte with its high bit set. -/
def groups : Nat → Nat → List UInt8
  | 0, _ => []
  | count + 1, n => groups count (n / 128) ++ [UInt8.ofNat (n % 128 + 128)]

/-- How many groups a number has beside its last one. -/
def groupCount (n : Nat) : Nat := Nat.log2 n / 7

/-- A number below 2^64 in groups of seven bits. -/
def varint (n : Nat) : List UInt8 :=
  if n < Nat.pow 2 56 then groups (groupCount n) (n / 128) ++ [UInt8.ofNat (n % 128)]
  else groups 8 (n / 256) ++ [UInt8.ofNat n]

/-! ## Numbers on a page -/

/-- The byte at a position; zero where there is none. -/
def byteAt (page : ByteArray) (i : Nat) : Nat := (page.data[i]?.getD 0).toNat

/-- The number in so many bytes from a position on. -/
def natAt (page : ByteArray) (i size : Nat) : Nat :=
  (List.range size).foldl (fun n j => 256 * n + byteAt page (i + j)) 0

/-- The number that goes on at a position behind groups of the value `n`, of which so many more
may have their high bit set, and the position behind it. -/
def varintFrom (page : ByteArray) : Nat → Nat → Nat → Nat × Nat
  | 0, n, i => (256 * n + byteAt page i, i + 1)
  | left + 1, n, i =>
    let b := byteAt page i
    if b < 128 then (128 * n + b, i + 1) else varintFrom page left (128 * n + (b - 128)) (i + 1)

/-- The number in groups of seven bits at a position, and the position behind it. -/
def varintAt (page : ByteArray) (i : Nat) : Nat × Nat := varintFrom page 8 0 i

/-- A number in groups of seven bits takes one byte at least. -/
theorem lt_varintFrom (page : ByteArray) (left n i : Nat) : i < (varintFrom page left n i).2 := by
  induction left generalizing n i with
  | zero => simp [varintFrom]
  | succ left ih =>
    unfold varintFrom
    simp only
    split
    · simp
    · exact Nat.lt_trans (Nat.lt_succ_self i) (ih _ _)

/-- A number of thirty-two bits in groups of seven bits, and the position behind it; the greatest
one stands for all that are greater. -/
def smallVarintAt (page : ByteArray) (i : Nat) : Nat × Nat :=
  let (n, i) := varintAt page i
  (min n (Nat.pow 2 32 - 1), i)

/-- A length that goes on at a position behind groups of the value `n`, of which there are at most
so many more, and the position behind it.  All groups have seven bits, and what exceeds thirty-two
bits is dropped. -/
def lengthFrom (page : ByteArray) : Nat → Nat → Nat → Nat × Nat
  | 0, n, i => ((128 * n + byteAt page i % 128) % Nat.pow 2 32, i + 1)
  | left + 1, n, i =>
    let b := byteAt page i
    let n := (128 * n + b % 128) % Nat.pow 2 32
    if b < 128 then (n, i + 1) else lengthFrom page left n (i + 1)

/-- The length in groups of seven bits at a position, and the position behind it. -/
def lengthAt (page : ByteArray) (i : Nat) : Nat × Nat := lengthFrom page 8 0 i

end Database

end InFlight
