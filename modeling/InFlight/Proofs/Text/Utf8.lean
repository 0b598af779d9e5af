import Mathlib.Order.Basic
import Mathlib.Tactic.Lemma
import Mathlib.Tactic.SplitIfs
import InFlight.Text.Utf8

/-!
# Bytes of a text read with replacement

Bytes that are the UTF-8 of a text are read as that text, without a replacement.  The machine is
between two characters when it starts with the bytes of a character, and after the last one of them
it has completed this character and is between two characters again.

## Main results

* `InFlight.Utf8.encode_eq` — the bytes of a text are those of its characters, one after another.
* `InFlight.Utf8.run_utf8EncodeChar` — reading the bytes of a character.
* `InFlight.Utf8.decodeLossy_encode` — reading the bytes of a text.
-/

set_option relaxedAutoImplicit false
set_option autoImplicit false

namespace InFlight

namespace Utf8

/-! ## Bytes of a text -/

/-- Listing a byte string from a position on. -/
lemma toList_loop (bytes : ByteArray) (i : Nat) (listed : List UInt8) :
    ByteArray.toList.loop bytes i listed = listed.reverse ++ bytes.data.toList.drop i := by
  fun_induction ByteArray.toList.loop bytes i listed with
  | case1 i listed h ih =>
    have hi : i < bytes.data.toList.length := by simpa using h
    have hget : bytes.get! i = bytes.data.toList[i] := getElem!_pos bytes.data i h
    rw [ih, List.drop_eq_getElem_cons hi, hget, List.reverse_cons, List.append_assoc,
      List.singleton_append]
  | case2 i listed h =>
    rw [List.drop_eq_nil_of_le (by simpa using Nat.le_of_not_lt h), List.append_nil]

/-- **The bytes of a text** are the bytes of its characters, one character after another. -/
theorem encode_eq (s : String) : encode s = s.toList.flatMap String.utf8EncodeChar := by
  rw [encode, ByteArray.toList, toList_loop, String.toUTF8_eq_toByteArray,
    ← String.utf8Encode_toList, List.utf8Encode, List.data_toByteArray]
  rfl

/-! ## Reading -/

/-- The first byte of a character. -/
lemma run_first {b : Nat} (hb : b < 256) {s : State} {cs : List Char} (h : first b = some (s, cs))
    (rest : List UInt8) : run .between (UInt8.ofNat b :: rest) = cs ++ run s rest := by
  rw [run, step, afresh, UInt8.toNat_ofNat_of_lt' hb, h]
  rfl

section Continuation

variable {n bits owed low high : Nat}

/-- A byte that goes on with a character, as a number. -/
lemma toNat_continuation (n : Nat) : (UInt8.ofNat (n % 64 + 0x80)).toNat = n % 64 + 0x80 := by
  have hbyte : n % 64 + 0x80 < 256 := by omega
  exact UInt8.toNat_ofNat_of_lt' hbyte

/-- A byte that goes on with a character and is not its last one. -/
lemma run_inside (hlow : low ≤ n % 64 + 0x80) (hhigh : n % 64 + 0x80 ≤ high) (howed : 1 < owed)
    (rest : List UInt8) :
    run (.inside bits owed low high) (UInt8.ofNat (n % 64 + 0x80) :: rest) =
      run (.inside (64 * bits + n % 64) (owed - 1) 0x80 0xBF) rest := by
  rw [run, step, toNat_continuation, if_pos ⟨hlow, hhigh⟩, Nat.add_sub_cancel,
    if_neg (Nat.not_le.2 howed)]
  rfl

/-- The last byte of a character. -/
lemma run_inside_one (hlow : low ≤ n % 64 + 0x80) (hhigh : n % 64 + 0x80 ≤ high)
    (rest : List UInt8) :
    run (.inside bits 1 low high) (UInt8.ofNat (n % 64 + 0x80) :: rest) =
      Char.ofNat (64 * bits + n % 64) :: run .between rest := by
  rw [run, step, toNat_continuation, if_pos ⟨hlow, hhigh⟩, Nat.add_sub_cancel,
    if_pos (Nat.le_refl 1)]
  rfl

end Continuation

section First

variable {v : Nat}

/-- The first of two bytes. -/
lemma first_two (hlow : 0x80 ≤ v) (hhigh : v < 0x800) :
    first (v / 64 % 32 + 0xC0) = some (.inside (v / 64) 1 0x80 0xBF, []) := by
  rw [Nat.mod_eq_of_lt (by omega), first, if_neg (by omega), if_pos (by omega), Nat.add_sub_cancel]

/-- The first of three bytes, and which bytes may be the second one. -/
lemma exists_first_three (hlow : 0x800 ≤ v) (hhigh : v < 0x10000)
    (hvalid : v < 0xD800 ∨ 0xDFFF < v) :
    ∃ low high, first (v / 4096 % 16 + 0xE0) = some (.inside (v / 4096) 2 low high, []) ∧
      low ≤ v / 64 % 64 + 0x80 ∧ v / 64 % 64 + 0x80 ≤ high := by
  rw [Nat.mod_eq_of_lt (by omega), first, if_neg (by omega), if_neg (by omega)]
  split_ifs with hzero hsurrogates hrest
  · have hlead : v / 4096 = 0 := by omega
    exact ⟨0xA0, 0xBF, by rw [hlead], by omega, by omega⟩
  · exact ⟨0x80, 0x9F, by rw [Nat.add_sub_cancel], by omega, by omega⟩
  · exact ⟨0x80, 0xBF, by rw [Nat.add_sub_cancel], by omega, by omega⟩
  all_goals omega

/-- The first of four bytes, and which bytes may be the second one. -/
lemma exists_first_four (hlow : 0x10000 ≤ v) (hhigh : v < 0x110000) :
    ∃ low high, first (v / 262144 % 8 + 0xF0) = some (.inside (v / 262144) 3 low high, []) ∧
      low ≤ v / 4096 % 64 + 0x80 ∧ v / 4096 % 64 + 0x80 ≤ high := by
  rw [Nat.mod_eq_of_lt (by omega), first, if_neg (by omega), if_neg (by omega), if_neg (by omega),
    if_neg (by omega), if_neg (by omega)]
  split_ifs with hzero hmiddle hlast
  · have hlead : v / 262144 = 0 := by omega
    exact ⟨0x90, 0xBF, by rw [hlead], by omega, by omega⟩
  · exact ⟨0x80, 0xBF, by rw [Nat.add_sub_cancel], by omega, by omega⟩
  · have hlead : v / 262144 = 4 := by omega
    exact ⟨0x80, 0x8F, by rw [hlead], by omega, by omega⟩
  · omega

end First

/-- **Reading the bytes of a character** gives the character.

**Proof sketch.** By the number of bytes.  The first byte holds the highest bits and says how many
bytes are owed; what it excludes as a second byte are the characters that need fewer bytes and the
numbers that are no characters. -/
theorem run_utf8EncodeChar (c : Char) (rest : List UInt8) :
    run .between (String.utf8EncodeChar c ++ rest) = c :: run .between rest := by
  have hvalid : c.toNat < 0xD800 ∨ 0xDFFF < c.toNat ∧ c.toNat < 0x110000 := c.valid
  have hchar : Char.ofNat c.toNat = c := c.ofNat_toNat
  have hval : c.val.toNat = c.toNat := rfl
  rw [String.utf8EncodeChar, hval]
  generalize c.toNat = v at hvalid hchar
  split_ifs with hone htwo hthree
  · have hfirst : first v = some (.between, [Char.ofNat v]) := by rw [first, if_pos (by omega)]
    rw [List.singleton_append, run_first (by omega) hfirst, hchar, List.singleton_append]
  · have hbits : 64 * (v / 64) + v % 64 = v := Nat.div_add_mod v 64
    rw [List.cons_append, run_first (by omega) (first_two (by omega) (by omega)), List.nil_append,
      List.singleton_append, run_inside_one (by omega) (by omega), hbits, hchar]
  · obtain ⟨low, high, hfirst, hlow, hhigh⟩ :=
      exists_first_three (v := v) (by omega) (by omega) (by omega)
    have hbits : 64 * (64 * (v / 4096) + v / 64 % 64) + v % 64 = v := by omega
    rw [List.cons_append, run_first (by omega) hfirst, List.nil_append, List.cons_append,
      run_inside hlow hhigh (by decide), List.singleton_append,
      run_inside_one (by omega) (by omega), hbits, hchar]
  · obtain ⟨low, high, hfirst, hlow, hhigh⟩ := exists_first_four (v := v) (by omega) (by omega)
    have hbits : 64 * (64 * (64 * (v / 262144) + v / 4096 % 64) + v / 64 % 64) + v % 64 = v := by
      omega
    rw [List.cons_append, run_first (by omega) hfirst, List.nil_append, List.cons_append,
      run_inside hlow hhigh (by decide), List.cons_append,
      run_inside (by omega) (by omega) (by decide), List.singleton_append,
      run_inside_one (by omega) (by omega), hbits, hchar]

/-- **Reading the bytes of a text** gives the text. -/
theorem decodeLossy_encode (s : String) : decodeLossy (encode s) = s := by
  have hrun : ∀ cs : List Char, run .between (cs.flatMap String.utf8EncodeChar) = cs := by
    intro cs
    induction cs with
    | nil => rfl
    | cons c cs ih => rw [List.flatMap_cons, run_utf8EncodeChar, ih]
  rw [decodeLossy, encode_eq, hrun, String.ofList_toList]

end Utf8

end InFlight
