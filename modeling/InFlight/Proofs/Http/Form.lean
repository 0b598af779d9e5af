import InFlight.Http.Query
import InFlight.Proofs.Text.Parts
import InFlight.Proofs.Text.Utf8

/-!
# Queries as they are written

A query writes assignments.  Between ampersands stands an assignment or nothing at all; an assignment
is a key, or a key and a value with an equals sign between them.  Key and value are coded byte by
byte: a plus sign stands for a space, a percent sign with two hexadecimal digits of either case for
the byte that they write, and any other byte for itself, so also a percent sign without two digits
behind it.  Where the bytes that a key or a value stands for are the UTF-8 of a text, the assignment
is about this text.

## Main definitions

* `InFlight.Query.Decodes` — the bytes that coded bytes stand for.
* `InFlight.Query.Assigns` — the assignment that a part of a query writes.
* `InFlight.Query.Writes` — the assignments that a query writes.

## Main results

* `InFlight.Query.decodes_iff` — coded bytes stand for the bytes that decoding gives.
* `InFlight.Query.parse_of_writes` — the assignments that a query writes are those it is read as.

## Design

Nothing is said about keys and values that are not UTF-8; they are read with replacements.
-/

set_option relaxedAutoImplicit false
set_option autoImplicit false

namespace InFlight

namespace Query

/-! ## Coded bytes -/

/-- A hexadecimal digit of either case with its value. -/
inductive HexDigit (b : UInt8) : Nat → Prop where
  | decimal {n : Nat} (hb : b.toNat = 0x30 + n) (hn : n < 10) : HexDigit b n
  | lower {n : Nat} (hb : b.toNat = 0x61 + n) (hn : n < 6) : HexDigit b (10 + n)
  | upper {n : Nat} (hb : b.toNat = 0x41 + n) (hn : n < 6) : HexDigit b (10 + n)

/-- The bytes that coded bytes stand for. -/
inductive Decodes : List UInt8 → List UInt8 → Prop where
  | nil : Decodes [] []
  | plus {rest bytes : List UInt8} (h : Decodes rest bytes) :
    Decodes (0x2B :: rest) (0x20 :: bytes)
  | coded {a b : UInt8} {x y : Nat} {rest bytes : List UInt8} (ha : HexDigit a x)
    (hb : HexDigit b y) (h : Decodes rest bytes) :
    Decodes (0x25 :: a :: b :: rest) (UInt8.ofNat (16 * x + y) :: bytes)
  | percent {rest bytes : List UInt8}
    (hnone : ∀ a b x y after, rest = a :: b :: after → HexDigit a x → ¬HexDigit b y)
    (h : Decodes rest bytes) : Decodes (0x25 :: rest) (0x25 :: bytes)
  | plain {b : UInt8} {rest bytes : List UInt8} (hplus : b ≠ 0x2B) (hpercent : b ≠ 0x25)
    (h : Decodes rest bytes) : Decodes (b :: rest) (b :: bytes)

variable {a b : UInt8} {x y : Nat} {rest bytes coded : List UInt8}

/-- A byte is read as a hexadecimal digit exactly if it is one. -/
lemma hexByte?_eq_some_iff : Text.hexByte? b = some x ↔ HexDigit b x := by
  have hchar : (Char.ofNat b.toNat).toNat = b.toNat := by
    have hvalid : b.toNat.isValidChar := .inl (Nat.lt_trans b.toNat_lt (by decide))
    rw [Char.ofNat, dif_pos hvalid]
    rfl
  have hlow : ∀ c : Char, c ≤ Char.ofNat b.toNat ↔ c.toNat ≤ b.toNat := fun c => by
    rw [Char.le_def, UInt32.le_iff_toNat_le]
    exact iff_of_eq (congrArg (c.toNat ≤ ·) hchar)
  have hhigh : ∀ c : Char, Char.ofNat b.toNat ≤ c ↔ b.toNat ≤ c.toNat := fun c => by
    rw [Char.le_def, UInt32.le_iff_toNat_le]
    exact iff_of_eq (congrArg (· ≤ c.toNat) hchar)
  simp only [Text.hexByte?, Hex.value?, hlow, hhigh, hchar, Char.reduceToNat]
  constructor
  · intro h
    split_ifs at h with hdecimal hlower hupper
    · obtain rfl := Option.some.inj h
      exact .decimal (by omega) (by omega)
    · obtain rfl := Option.some.inj h
      rw [Nat.add_comm]
      exact .lower (by omega) (by omega)
    · obtain rfl := Option.some.inj h
      rw [Nat.add_comm]
      exact .upper (by omega) (by omega)
  · intro h
    cases h with
    | decimal hb hn => rw [if_pos (by omega), hb, Nat.add_sub_cancel_left]
    | lower hb hn =>
      rw [if_neg (by omega), if_pos (by omega), hb, Nat.add_sub_cancel_left, Nat.add_comm]
    | upper hb hn =>
      rw [if_neg (by omega), if_neg (by omega), if_pos (by omega), hb, Nat.add_sub_cancel_left,
        Nat.add_comm]

/-- A plus sign is no hexadecimal digit, nor is the space that it stands for. -/
lemma HexDigit.ne_plus (h : HexDigit b x) : b ≠ 0x2B ∧ b ≠ 0x20 := by
  have hlow : 0x30 ≤ b.toNat := by cases h <;> omega
  constructor
  all_goals
    rintro rfl
    exact absurd hlow (by decide)

/-- A byte that is a hexadecimal digit with a space for a plus sign was one before. -/
lemma HexDigit.of_plusToSpace (h : HexDigit (if b = 0x2B then 0x20 else b) x) : HexDigit b x := by
  split_ifs at h
  · exact absurd rfl h.ne_plus.2
  · exact h

/-- A byte that is no percent sign is not decoded. -/
lemma percentDecode_cons (h : b ≠ 0x25) (rest : List UInt8) :
    Text.percentDecode (b :: rest) = b :: Text.percentDecode rest := by
  rw [Text.percentDecode]
  rintro _ _ _ rfl
  exact absurd rfl h

/-- A percent sign that is not followed by two digits is not decoded. -/
lemma percentDecode_percent
    (h : ∀ a b x y after, rest = a :: b :: after → HexDigit a x → ¬HexDigit b y) :
    Text.percentDecode (0x25 :: rest) = 0x25 :: Text.percentDecode rest := by
  match rest with
  | [] | [_] => rfl
  | a :: b :: after =>
    rw [Text.percentDecode]
    split
    · next x y hx hy =>
      exact absurd (hexByte?_eq_some_iff.1 hy) (h a b x y after rfl (hexByte?_eq_some_iff.1 hx))
    · rfl

/-- Decoding gives what coded bytes stand for. -/
lemma Decodes.eq (h : Decodes coded bytes) : Text.percentDecode (plusToSpace coded) = bytes := by
  induction h with
  | nil => rfl
  | plus _ ih =>
    rw [plusToSpace, List.map_cons, if_pos rfl, percentDecode_cons (by decide)]
    exact congrArg _ ih
  | coded ha hb _ ih =>
    rw [plusToSpace, List.map_cons, List.map_cons, List.map_cons, if_neg (by decide),
      if_neg ha.ne_plus.1, if_neg hb.ne_plus.1, Text.percentDecode, hexByte?_eq_some_iff.2 ha,
      hexByte?_eq_some_iff.2 hb]
    exact congrArg _ ih
  | percent hnone _ ih =>
    rw [plusToSpace, List.map_cons, if_neg (by decide), percentDecode_percent]
    · exact congrArg _ ih
    · intro a b x y after hrest ha hb
      obtain ⟨a, rest, rfl, rfl, hbehind⟩ := List.map_eq_cons_iff.1 hrest
      obtain ⟨b, after, rfl, rfl, -⟩ := List.map_eq_cons_iff.1 hbehind
      exact hnone a b x y after rfl ha.of_plusToSpace hb.of_plusToSpace
  | plain hplus hpercent _ ih =>
    rw [plusToSpace, List.map_cons, if_neg hplus, percentDecode_cons hpercent]
    exact congrArg _ ih

/-- All coded bytes stand for some bytes. -/
lemma exists_decodes : ∀ coded, ∃ bytes, Decodes coded bytes
  | [] => ⟨[], .nil⟩
  | b :: rest => by
    obtain ⟨bytes, h⟩ := exists_decodes rest
    by_cases hplus : b = 0x2B
    · subst hplus
      exact ⟨_, .plus h⟩
    by_cases hpercent : b = 0x25
    · subst hpercent
      by_cases hdigits : ∃ a b x y after, rest = a :: b :: after ∧ HexDigit a x ∧ HexDigit b y
      · obtain ⟨a, b, x, y, after, rfl, ha, hb⟩ := hdigits
        obtain ⟨bytes, h⟩ := exists_decodes after
        exact ⟨_, .coded ha hb h⟩
      · exact ⟨_, .percent (fun a b x y after hrest ha hb =>
          hdigits ⟨a, b, x, y, after, hrest, ha, hb⟩) h⟩
    · exact ⟨_, .plain hplus hpercent h⟩
termination_by coded => coded.length

/-- **What coded bytes stand for** is what decoding gives, and nothing else. -/
theorem decodes_iff : Decodes coded bytes ↔ Text.percentDecode (plusToSpace coded) = bytes := by
  refine ⟨Decodes.eq, ?_⟩
  rintro rfl
  obtain ⟨bytes, h⟩ := exists_decodes coded
  rwa [h.eq]

/-! ## Assignments -/

/-- The assignment that a part of a query writes: a key up to the first equals sign and the value
behind it, or a key alone, of which the value is empty. -/
inductive Assigns : List UInt8 → String × String → Prop where
  | alone {part : List UInt8} {key : String} (hmark : 0x3D ∉ part)
    (hkey : Decodes part (Utf8.encode key)) : Assigns part (key, "")
  | valued {before after : List UInt8} {key value : String} (hmark : 0x3D ∉ before)
    (hkey : Decodes before (Utf8.encode key)) (hvalue : Decodes after (Utf8.encode value)) :
    Assigns (before ++ 0x3D :: after) (key, value)

/-- The assignments that a query writes, part by part; an empty part writes none. -/
def Writes (query : String) (q : Query) : Prop :=
  ∃ parts, Text.Parted 0x26 (Utf8.encode query) parts ∧
    List.Forall₂ Assigns (parts.filter fun part => !part.isEmpty) q

/-- The assignment that a coded key and a coded value with an equals sign between them write. -/
lemma Assigns.of_percentDecode {before after : List UInt8} {key value : String}
    (hmark : 0x3D ∉ before)
    (hkey : Text.percentDecode (plusToSpace before) = Utf8.encode key)
    (hvalue : Text.percentDecode (plusToSpace after) = Utf8.encode value) :
    Assigns (before ++ 0x3D :: after) (key, value) :=
  .valued hmark (decodes_iff.2 hkey) (decodes_iff.2 hvalue)

/-- Coded bytes that stand for the bytes of a text are read as the text. -/
lemma Decodes.decode_eq {s : String} (h : Decodes coded (Utf8.encode s)) : decode coded = s := by
  rw [decode, h.eq, Utf8.decodeLossy_encode]

/-- A part that writes an assignment is read as it. -/
lemma Assigns.assignment_eq {part : List UInt8} {a : String × String} (h : Assigns part a) :
    assignment part = a := by
  cases h with
  | alone hmark hkey =>
    rw [assignment, Text.cutList_of_notMem hmark]
    exact congrArg₂ Prod.mk hkey.decode_eq rfl
  | valued hmark hkey hvalue =>
    rw [assignment, Text.cutList_append hmark]
    exact congrArg₂ Prod.mk hkey.decode_eq hvalue.decode_eq

/-- **The assignments that a query writes** are those it is read as. -/
theorem parse_of_writes {query : String} {q : Query} (h : Writes query q) : parse query = q := by
  obtain ⟨parts, hparted, hassigns⟩ := h
  rw [parse, Text.parted_iff.1 hparted]
  generalize (parts.filter fun part => !part.isEmpty) = written at hassigns
  induction hassigns with
  | nil => rfl
  | cons hpart _ ih => rw [List.map_cons, hpart.assignment_eq, ih]

end Query

end InFlight
