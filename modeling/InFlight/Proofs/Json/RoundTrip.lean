import Mathlib.Tactic.Lemma
import InFlight.Proofs.Json.Grammar

/-!
# Values read as they were written

A value that is written in the indented layout is the value that the text is read as, provided that
its numbers are integers and its strings have a text.

## Main definitions

* `InFlight.Json.Plain` — a value whose numbers are integers and whose strings have a text.

## Main results

* `InFlight.Json.literal_flatMap_escape` — the literal of a text stands for that text.
* `InFlight.Json.writes_indentedAt` — the indented layout of a plain value is in the grammar.
* `InFlight.Json.parse?_indented` — a plain value is read as it was written.
-/

set_option relaxedAutoImplicit false
set_option autoImplicit false

namespace InFlight

namespace Json

/-! ## Strings -/

/-- The piece that a character is written as. -/
def Piece.ofChar (c : Char) : Piece :=
  if c.toNat < 0x20 ∧ c ∉ ['\x08', '\x0c', '\n', '\r', '\t'] then .unit c.toNat else .char c

/-- The digits of a control character give its number. -/
lemma unit?_digits :
    ∀ n < 0x20, unit? '0' '0' (Hex.digit (n / 16)) (Hex.digit (n % 16)) = some n := by
  decide

/-- A character is written as its piece. -/
lemma literal_escape (c : Char) {cs : List Char} {pieces : List Piece} (h : Literal cs pieces) :
    Literal (escape c ++ cs) (.ofChar c :: pieces) := by
  unfold escape
  split
  · exact .short rfl h
  · exact .short rfl h
  · exact .short rfl h
  · exact .short rfl h
  · exact .short rfl h
  · exact .short rfl h
  · exact .short rfl h
  · next hquote hbackslash h8 hc hn hr ht =>
    by_cases hcontrol : c.toNat < 0x20
    · have hpiece : Piece.ofChar c = .unit c.toNat := if_pos ⟨hcontrol, by simp_all⟩
      rw [if_pos hcontrol, hpiece]
      exact .unit (unit?_digits _ hcontrol) h
    · have hpiece : Piece.ofChar c = .char c := if_neg fun h => hcontrol h.1
      rw [if_neg hcontrol, hpiece]
      exact .char (Nat.not_lt.1 hcontrol) ⟨hquote, hbackslash⟩ h

/-- The literal of a text is made of the pieces of its characters. -/
lemma literal_flatMap_escape (cs : List Char) :
    Literal (cs.flatMap escape) (cs.map Piece.ofChar) := by
  induction cs with
  | nil => exact .nil
  | cons c cs ih =>
    rw [List.flatMap_cons, List.map_cons]
    exact literal_escape c ih

/-- A character is joined to the text as it was written. -/
lemma joinOnto?_ofChar (c : Char) (done : List Char) (rest : List Piece) :
    Piece.joinOnto? done (.ofChar c :: rest) = Piece.joinOnto? (c :: done) rest := by
  unfold Piece.ofChar
  split
  · next h =>
    -- a control character is no half of a surrogate pair
    have hlow : Piece.isLow c.toNat = false := by simp [Piece.isLow]; omega
    have hhigh : Piece.isHigh c.toNat = false := by simp [Piece.isHigh]; omega
    rw [Piece.joinOnto?.eq_def]
    simp only [hlow, hhigh, Char.ofNat_toNat, Bool.false_eq_true, if_false]
  · rfl

/-- The pieces of a text join to it. -/
lemma joinOnto?_map_ofChar (cs done : List Char) :
    Piece.joinOnto? done (cs.map Piece.ofChar) = some (done.reverse ++ cs) := by
  induction cs generalizing done with
  | nil => rw [List.map_nil, Piece.joinOnto?, List.append_nil]
  | cons c cs ih =>
    rw [List.map_cons, joinOnto?_ofChar, ih, List.reverse_cons, List.append_assoc,
      List.singleton_append]

/-- The pieces of a text are joined to the text. -/
lemma join?_map_ofChar (s : String) : Piece.join? (s.toList.map Piece.ofChar) = some s := by
  rw [Piece.join?, joinOnto?_map_ofChar, List.reverse_nil, List.nil_append, Option.map_some,
    String.ofList_toList]

/-- A text is quoted character by character. -/
lemma toList_quote (s : String) :
    (quote s).toList = '"' :: (s.toList.flatMap escape ++ ['"']) := by
  simp [quote]

/-- The literal of a text writes that text. -/
lemma writes_quote (s : String) : Writes (quote s).toList (.value (.text s)) := by
  have hwrites := Writes.string (literal_flatMap_escape s.toList)
  rwa [join?_map_ofChar, ← toList_quote] at hwrites

/-- The literal of a text is a key. -/
lemma key_quote {before : List Char} (hbefore : Blanks before) (s : String) :
    Key (before ++ (quote s).toList) (some s) := by
  have hkey := Key.mk hbefore (literal_flatMap_escape s.toList) blanks_nil
  rwa [join?_map_ofChar, ← toList_quote] at hkey

/-! ## Integers -/

/-- The digits of a natural number are the whole part of a number. -/
lemma wholePart_toDigits (n : Nat) : WholePart (Nat.toDigits 10 n) where
  ne_nil := Nat.toDigits_ne_nil
  isDigit _ := Decimal.isDigit_of_mem_toDigits
  zero := Decimal.toDigits_of_head?_zero

/-- An integer is written as a well-formed number. -/
lemma wellFormed_ofInt (i : Int) : (Number.ofInt i).WellFormed where
  whole := wholePart_toDigits i.natAbs
  tail := ⟨[], [], .none, .none, rfl⟩

/-! ## Layout -/

/-- A new line begins with two spaces for every level. -/
lemma toList_newline (depth : Nat) :
    (newline depth).toList = '\n' :: List.replicate (2 * depth) ' ' := by
  simp [newline]

/-- A new line and its indentation are blanks. -/
lemma blanks_newline (depth : Nat) : Blanks (newline depth).toList := by
  rw [toList_newline]
  rintro c (_ | ⟨_, hc⟩)
  · rfl
  · rw [List.eq_of_mem_replicate hc]
    rfl

/-- The characters of a block. -/
lemma toList_block (depth : Nat) (opening closing : String) (lines : List String) :
    (block depth opening closing lines).toList =
      opening.toList ++ ((newline (depth + 1)).toList ++
        (List.intercalate (',' :: (newline (depth + 1)).toList) (lines.map String.toList) ++
          (newline depth).toList) ++ closing.toList) := by
  simp [block, String.toList_intercalate]

/-- The lines of a container write what is in it, part by part, where `phrase` is what the parts
make up. -/
lemma writes_lines {α : Type} (phrase : List α → Phrase) (line : α → List Char) (depth : Nat)
    (part : α) (parts : List α)
    (hlast : ∀ part' ∈ part :: parts,
      Writes ((newline (depth + 1)).toList ++ (line part' ++ (newline depth).toList))
        (phrase [part']))
    (hnext : ∀ part' ∈ part :: parts, ∀ cs next parts', Writes cs (phrase (next :: parts')) →
      Writes ((newline (depth + 1)).toList ++ (line part' ++ ',' :: cs))
        (phrase (part' :: next :: parts'))) :
    Writes ((newline (depth + 1)).toList ++
      (List.intercalate (',' :: (newline (depth + 1)).toList) ((part :: parts).map line) ++
        (newline depth).toList)) (phrase (part :: parts)) := by
  induction parts generalizing part with
  | nil =>
    rw [List.map_singleton, List.intercalate_singleton]
    exact hlast part List.mem_cons_self
  | cons next parts ih =>
    have hrest := ih next (fun part' hpart' => hlast part' (List.mem_cons_of_mem part hpart'))
      fun part' hpart' => hnext part' (List.mem_cons_of_mem part hpart')
    rw [List.map_cons, List.map_cons, List.intercalate_cons_cons, List.append_assoc,
      List.append_assoc, List.cons_append]
    exact hnext part List.mem_cons_self _ next parts hrest

/-! ## Values -/

/-- A value whose numbers are integers and whose strings have a text. -/
inductive Plain : Json → Prop where
  | null : Plain .null
  | bool (b : Bool) : Plain (.bool b)
  | int (i : Int) : Plain (.int i)
  | text (s : String) : Plain (.text s)
  | array {items : List Json} (h : ∀ v ∈ items, Plain v) : Plain (.array items)
  | object {members : List (Option String × Json)} (hkeys : ∀ m ∈ members, m.1.isSome)
    (hvalues : ∀ m ∈ members, Plain m.2) : Plain (.object members)

/-- Items are indented one by one. -/
lemma indentedItems_eq (depth : Nat) (items : List Json) :
    indentedItems depth items = items.map (indentedAt depth) := by
  induction items with
  | nil => rw [indentedItems, List.map_nil]
  | cons v items ih => rw [indentedItems, ih, List.map_cons]

/-- Members are indented one by one. -/
lemma indentedMembers_eq (depth : Nat) (members : List (Option String × Json)) :
    indentedMembers depth members =
      members.map fun m => writeString m.1 ++ ": " ++ indentedAt depth m.2 := by
  induction members with
  | nil => rw [indentedMembers, List.map_nil]
  | cons m members ih => rw [indentedMembers, ih, List.map_cons]

/-- An array is written item by item. -/
lemma writes_indentedAt_array {items : List Json} {depth : Nat}
    (h : ∀ v ∈ items, Writes (indentedAt (depth + 1) v).toList (.value v)) :
    Writes (indentedAt depth (.array items)).toList (.value (.array items)) := by
  cases items with
  | nil =>
    rw [show indentedAt depth (.array []) = "[]" from rfl]
    exact .array (.noItem blanks_nil)
  | cons v items =>
    rw [indentedAt, toList_block, indentedItems_eq, List.map_map]
    refine .array (writes_lines .items (String.toList ∘ indentedAt (depth + 1)) depth v items
      (fun u hu => ?_) fun u hu cs next rest hnext => ?_)
    · exact .lastItem (.blanks (blanks_newline _) (h u hu) (blanks_newline _))
    · rw [← List.append_assoc]
      exact .item (.indent (blanks_newline (depth + 1)) (h u hu)) hnext

/-- A line of an object: a key, a colon, a space and a value. -/
lemma toList_line (s : String) (v : String) (after : List Char) :
    (writeString (some s) ++ ": " ++ v).toList ++ after =
      (quote s).toList ++ ':' :: ([' '] ++ (v.toList ++ after)) := by
  simp [writeString]

/-- An object is written member by member. -/
lemma writes_indentedAt_object {members : List (Option String × Json)} {depth : Nat}
    (hkeys : ∀ m ∈ members, m.1.isSome)
    (h : ∀ m ∈ members, Writes (indentedAt (depth + 1) m.2).toList (.value m.2)) :
    Writes (indentedAt depth (.object members)).toList (.value (.object members)) := by
  have hspace : Blanks [' '] := by simp [Blanks, Token.isSpace]
  cases members with
  | nil =>
    rw [show indentedAt depth (.object []) = "\x7b\x7d" from rfl]
    exact .object (.noMember blanks_nil)
  | cons m members =>
    rw [indentedAt, toList_block, indentedMembers_eq, List.map_map]
    refine .object (writes_lines .members
      (String.toList ∘ fun m => writeString m.1 ++ ": " ++ indentedAt (depth + 1) m.2)
      depth m members ?_ ?_)
    · rintro ⟨key, u⟩ hu
      obtain ⟨s, rfl⟩ := Option.isSome_iff_exists.1 (hkeys _ hu)
      rw [Function.comp_apply, toList_line, ← List.append_assoc]
      exact .lastMember (key_quote (blanks_newline _) s)
        (.blanks hspace (h _ hu) (blanks_newline _))
    · rintro ⟨key, u⟩ hu cs next rest hnext
      obtain ⟨s, rfl⟩ := Option.isSome_iff_exists.1 (hkeys _ hu)
      rw [Function.comp_apply, toList_line, ← List.append_assoc, ← List.append_assoc [' ']]
      exact .member (key_quote (blanks_newline _) s) (.indent hspace (h _ hu)) hnext

/-- The indented layout of a plain value is in the grammar. -/
lemma writes_indentedAt {v : Json} (h : Plain v) (depth : Nat) :
    Writes (indentedAt depth v).toList (.value v) := by
  induction h generalizing depth with
  | null =>
    rw [show indentedAt depth .null = "null" from rfl]
    exact .null
  | bool b =>
    cases b with
    | false =>
      rw [show indentedAt depth (.bool false) = "false" from rfl]
      exact .false
    | true =>
      rw [show indentedAt depth (.bool true) = "true" from rfl]
      exact .true
  | int i => exact .number (wellFormed_ofInt i)
  | text s => exact writes_quote s
  | array _ ih => exact writes_indentedAt_array fun v hv => ih v hv (depth + 1)
  | object hkeys _ ih => exact writes_indentedAt_object hkeys fun m hm => ih m hm (depth + 1)

/-- **A plain value is read as it was written**, in the indented layout. -/
theorem parse?_indented {v : Json} (h : Plain v) : parse? v.indented = some v :=
  parse?_of_writes (writes_indentedAt h 0)

end Json

end InFlight
