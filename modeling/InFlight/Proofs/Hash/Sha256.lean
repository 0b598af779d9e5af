import Mathlib.Tactic.Lemma
import InFlight.Hash.Sha256

/-!
# Absorbing a message in pieces

How a message is cut into pieces does not matter to the accumulator.  It folds the compression
function over the whole blocks of what it has been given, and the bytes that do not fill a block
wait for the piece that completes it; so two pieces are absorbed like one, and the digest that is
read off is the hash of the whole message.

## Main definitions

* `InFlight.Sha256.Words.feed`, `InFlight.Sha256.unfilled` — what becomes of the whole blocks of a
  buffer, and what is left of it.

## Main results

* `InFlight.Sha256.Words.feed_append` — a buffer may be cut anywhere.
* `InFlight.Sha256.absorb_absorb` — two pieces are absorbed like one.
* `InFlight.Sha256.digest_absorb_start` — the digest of what has been absorbed is its hash.
-/

set_option relaxedAutoImplicit false
set_option autoImplicit false

namespace InFlight

namespace Sha256

variable {b b' x y : ByteArray} {i j k n : Nat}

/-! ## What a block reads -/

/-- A byte of the first of two byte strings. -/
lemma byteAt_append_left (h : i < x.size) : byteAt (x ++ y) i = byteAt x i := by
  have hi : i < (x ++ y).size := by
    rw [ByteArray.size_append]
    omega
  rw [byteAt, byteAt, dif_pos hi, dif_pos h, ByteArray.getElem_append_left h]

/-- A byte of the second of two byte strings. -/
lemma byteAt_append_right (x y : ByteArray) (i : Nat) :
    byteAt (x ++ y) (x.size + i) = byteAt y i := by
  simp only [byteAt, ByteArray.size_append, Nat.add_lt_add_iff_left]
  by_cases hi : i < y.size
  · rw [dif_pos hi, dif_pos hi, ByteArray.getElem_append_right (Nat.le_add_right _ _)]
    simp only [Nat.add_sub_cancel_left]
  · rw [dif_neg hi, dif_neg hi]

/-- The `n` bytes of one buffer from position `i` on are those of another from position `j` on. -/
def SameBytes (b : ByteArray) (i : Nat) (b' : ByteArray) (j n : Nat) : Prop :=
  ∀ k < n, byteAt b (i + k) = byteAt b' (j + k)

namespace SameBytes

/-- A part of the bytes, further on. -/
lemma drop (h : SameBytes b i b' j (k + n)) : SameBytes b (i + k) b' (j + k) n := by
  intro l hl
  rw [Nat.add_assoc, Nat.add_assoc]
  exact h (k + l) (by omega)

/-- Byte strings with the same bytes have the same front. -/
lemma take (h : SameBytes b i b' j (k + n)) : SameBytes b i b' j k :=
  fun l hl => h l (by omega)

/-- The same four bytes are the same word. -/
lemma wordAt_eq (h : SameBytes b i b' j 4) : wordAt b i = wordAt b' j := by
  have h0 := h 0 (by omega)
  rw [Nat.add_zero, Nat.add_zero] at h0
  rw [wordAt, wordAt, h0, h 1 (by omega), h 2 (by omega), h 3 (by omega)]

/-- A schedule reads the sixty-four bytes of its block. -/
lemma schedule_eq (h : SameBytes b i b' j 64) : schedule b i = schedule b' j := by
  have hwords : ∀ k < 16, wordAt b (i + 4 * k) = wordAt b' (j + 4 * k) := by
    intro k hk
    have hrest : SameBytes b i b' j (4 * k + (4 + (60 - 4 * k))) := by
      rwa [show 4 * k + (4 + (60 - 4 * k)) = 64 by omega]
    exact hrest.drop.take.wordAt_eq
  have hinput : (Array.range 16).map (fun k => wordAt b (i + 4 * k)) =
      (Array.range 16).map fun k => wordAt b' (j + 4 * k) :=
    Array.map_congr_left fun k hk => hwords k (by simpa using hk)
  exact congrArg (extendSchedule 48) hinput

/-- The same 64 bytes are compressed alike. -/
lemma compress_eq (h : SameBytes b i b' j 64) (s : Words) : s.compress b i = s.compress b' j := by
  rw [Words.compress, Words.compress, h.schedule_eq]

end SameBytes

/-! ## Whole blocks and the rest -/

namespace Words

/-- The first of several blocks is fed before the others. -/
lemma foldBlocks_succ (b : ByteArray) (n i : Nat) (s : Words) :
    foldBlocks b (n + 1) i s = foldBlocks b n (i + 64) (s.compress b i) := by
  -- with the compression function in sight, the two sides would be compared by computing it
  delta foldBlocks foldBlocks._f
  generalize compress = f
  rfl

end Words

/-- Blocks with the same bytes are folded alike. -/
lemma SameBytes.foldBlocks_eq (h : SameBytes b i b' j (64 * n)) (s : Words) :
    Words.foldBlocks b n i s = Words.foldBlocks b' n j s := by
  induction n generalizing i j s with
  | zero => rfl
  | succ n ih =>
    have hblocks : SameBytes b i b' j (64 + 64 * n) := by
      rwa [show 64 + 64 * n = 64 * (n + 1) by omega]
    rw [Words.foldBlocks_succ, Words.foldBlocks_succ, hblocks.take.compress_eq, ih hblocks.drop]

namespace Words

/-- Blocks may be compressed in two portions. -/
lemma foldBlocks_add (b : ByteArray) (k n i : Nat) (s : Words) :
    foldBlocks b (k + n) i s = foldBlocks b n (i + 64 * k) (foldBlocks b k i s) := by
  induction k generalizing i s with
  | zero => rw [Nat.zero_add]; rfl
  | succ k ih =>
    rw [Nat.add_right_comm, foldBlocks_succ, ih, foldBlocks_succ, Nat.add_assoc, Nat.mul_add_one,
      Nat.add_comm 64]

/-- Whole blocks in front of other bytes are folded first. -/
lemma foldBlocks_append (hx : x.size = 64 * k) (n : Nat) (s : Words) :
    foldBlocks (x ++ y) (k + n) 0 s = foldBlocks y n 0 (foldBlocks x k 0 s) := by
  have hfront : SameBytes (x ++ y) 0 x 0 (64 * k) := by
    intro l hl
    rw [Nat.zero_add]
    exact byteAt_append_left (by omega)
  have hback : SameBytes (x ++ y) (0 + 64 * k) y 0 (64 * n) := by
    intro l _
    rw [Nat.zero_add, Nat.zero_add, ← hx]
    exact byteAt_append_right x y l
  rw [foldBlocks_add, hfront.foldBlocks_eq, hback.foldBlocks_eq]

/-- The chaining words after all whole blocks of a buffer. -/
def feed (s : Words) (b : ByteArray) : Words := foldBlocks b (b.size / 64) 0 s

end Words

/-- The bytes of a buffer that do not fill a block. -/
def unfilled (b : ByteArray) : ByteArray := b.extract (64 * (b.size / 64)) b.size

/-- Less than a block is left over. -/
lemma size_unfilled (b : ByteArray) : (unfilled b).size = b.size % 64 := by
  rw [unfilled, ByteArray.size_extract]
  omega

/-- A buffer consists of whole blocks and the bytes that do not fill one. -/
lemma exists_eq_append_unfilled (b : ByteArray) :
    ∃ blocks, blocks.size = 64 * (b.size / 64) ∧ b = blocks ++ unfilled b := by
  refine ⟨b.extract 0 (64 * (b.size / 64)), ?_, ?_⟩
  · rw [ByteArray.size_extract]
    omega
  · have hall := ByteArray.extract_eq_extract_append_extract (a := b) (64 * (b.size / 64))
      (Nat.zero_le _) (Nat.mul_div_le b.size 64)
    rwa [ByteArray.extract_zero_size] at hall

/-- Whole blocks in front of a buffer are fed first. -/
lemma Words.feed_blocks_append (hx : x.size = 64 * k) (s : Words) :
    s.feed (x ++ y) = (foldBlocks x k 0 s).feed y := by
  rw [feed, ByteArray.size_append, hx, Nat.mul_add_div (by omega), foldBlocks_append hx]
  rfl

/-- Whole blocks in front of a buffer do not count for what is left of it. -/
lemma unfilled_blocks_append (hx : x.size = 64 * k) : unfilled (x ++ y) = unfilled y := by
  rw [unfilled, ByteArray.size_append, hx, Nat.mul_add_div (by omega), Nat.mul_add,
    ByteArray.extract_append_size_add' hx.symm]
  rfl

/-- **A buffer may be cut anywhere**: what is left of the first part stands in front of the
second. -/
theorem Words.feed_append (s : Words) (x y : ByteArray) :
    s.feed (x ++ y) = (s.feed x).feed (unfilled x ++ y) := by
  obtain ⟨blocks, hblocks, hx⟩ := exists_eq_append_unfilled x
  have hshort : (unfilled x).size / 64 = 0 := by
    rw [size_unfilled]
    omega
  have hfirst : s.feed x = foldBlocks blocks (x.size / 64) 0 s := by
    have hfeed := feed_blocks_append (y := unfilled x) hblocks s
    rw [← hx] at hfeed
    rw [hfeed, feed, hshort]
    rfl
  rw [hfirst, ← feed_blocks_append hblocks, ← ByteArray.append_assoc, ← hx]

/-- What is left of two parts depends on what is left of the first. -/
lemma unfilled_append (x y : ByteArray) : unfilled (x ++ y) = unfilled (unfilled x ++ y) := by
  obtain ⟨blocks, hblocks, hx⟩ := exists_eq_append_unfilled x
  rw [← unfilled_blocks_append (y := unfilled x ++ y) hblocks, ← ByteArray.append_assoc, ← hx]

/-! ## The accumulator -/

/-- What an accumulator is after one more piece. -/
lemma absorb_eq (s : Sha256) (x : ByteArray) : s.absorb x =
    ⟨s.words.feed (s.pending ++ x), unfilled (s.pending ++ x), s.length + x.size⟩ := rfl

/-- **Two pieces are absorbed like one**, by every accumulator. -/
theorem absorb_absorb (s : Sha256) (x y : ByteArray) :
    (s.absorb x).absorb y = s.absorb (x ++ y) := by
  have hwords : (s.words.feed (s.pending ++ x)).feed (unfilled (s.pending ++ x) ++ y) =
      s.words.feed (s.pending ++ (x ++ y)) := by
    rw [← Words.feed_append, ByteArray.append_assoc]
  have hpending : unfilled (unfilled (s.pending ++ x) ++ y) = unfilled (s.pending ++ (x ++ y)) := by
    rw [← unfilled_append, ByteArray.append_assoc]
  simp only [absorb_eq, hwords, hpending, ByteArray.size_append, Nat.add_assoc]

/-- The digest feeds what is pending and the padding. -/
lemma digest_eq (s : Sha256) :
    s.digest = (s.words.feed (s.pending ++ padding s.length)).toBytes := rfl

/-- The hash feeds the message and the padding. -/
lemma hash_eq (x : ByteArray) : hash x = (Words.initial.feed (x ++ padding x.size)).toBytes := rfl

/-- **The digest of a message** that has been absorbed is its hash: the padding completes the bytes
that wait for a block. -/
theorem digest_absorb_start (x : ByteArray) : (start.absorb x).digest = hash x := by
  have hmessage : start.absorb x = ⟨Words.initial.feed x, unfilled x, x.size⟩ := by
    rw [absorb_eq, start, ByteArray.empty_append, Nat.zero_add]
  rw [hmessage, digest_eq, hash_eq, Words.feed_append _ x]

example : (start.absorb "abc".toUTF8).digest = ⟨#[
    0xba, 0x78, 0x16, 0xbf, 0x8f, 0x01, 0xcf, 0xea, 0x41, 0x41, 0x40, 0xde, 0x5d, 0xae, 0x22, 0x23,
    0xb0, 0x03, 0x61, 0xa3, 0x96, 0x17, 0x7a, 0x9c, 0xb4, 0x10, 0xff, 0x61, 0xf2, 0x00, 0x15,
    0xad]⟩ := by
  decide +kernel

/-- A digest has thirty-two bytes. -/
lemma size_hash (x : ByteArray) : (hash x).size = 32 := rfl

end Sha256

end InFlight
