import Mathlib.Data.List.TakeDrop
import Mathlib.Tactic.Lemma
import InFlight.Json.Reader
import InFlight.Json.Writer
import InFlight.Proofs.Json.Integers

/-!
# The grammar of JSON

Which texts write which values: words, numbers, strings with their escapes, arrays and objects, and
blanks around all of them.  The grammar says nothing of how a text is read.  Every text in it is
read as the value that it writes.

## Main definitions

* `InFlight.Json.Number.WellFormed` — a number that can be written.
* `InFlight.Json.Literal` — the characters of a string literal, and its pieces.
* `InFlight.Json.Phrase`, `InFlight.Json.Writes` — the phrases of the grammar and their texts.
* `InFlight.Json.Written` — a value that some text writes.
* `InFlight.Json.Reads` — from some progress on, a text completes a value.

## Main results

* `InFlight.Json.parse?_of_writes` — a text is read as the value that it writes.
* `InFlight.Json.Written.wellFormed`, `InFlight.Json.Written.items`,
  `InFlight.Json.Written.members` — what is inside a value that some text writes.

## Design

The items of an array and the members of an object are phrases of their own, so that one induction
over one relation is enough.

`Reads` takes the scanner and the machine that reads tokens in one step each, without fuel.  A text
is treated from its end to its start: to read a value and then `rest` is to read `rest` after that
value.
-/

set_option relaxedAutoImplicit false
set_option autoImplicit false

namespace InFlight

namespace Json

/-! ## The grammar -/

/-- Blanks, or nothing. -/
def Blanks (cs : List Char) : Prop := ∀ c ∈ cs, Token.isSpace c = true

/-- One or more digits. -/
structure Digits (cs : List Char) : Prop where
  ne_nil : cs ≠ []
  isDigit : ∀ c ∈ cs, Decimal.isDigit c = true

/-- The digits before any point, of which the first is a zero only if it is the only one. -/
structure WholePart (cs : List Char) : Prop extends Digits cs where
  zero : cs.head? = some '0' → cs = ['0']

/-- A point and digits, or nothing. -/
inductive Fraction : List Char → Prop where
  | none : Fraction []
  | some {ds : List Char} (h : Digits ds) : Fraction ('.' :: ds)

/-- The mark of an exponent, a sign if there is one, and digits; or nothing. -/
inductive Exponent : List Char → Prop where
  | none : Exponent []
  | unsigned {e : Char} {ds : List Char} (he : e = 'e' ∨ e = 'E') (h : Digits ds) :
    Exponent (e :: ds)
  | signed {e s : Char} {ds : List Char} (he : e = 'e' ∨ e = 'E') (hs : s = '+' ∨ s = '-')
    (h : Digits ds) : Exponent (e :: s :: ds)

/-- A number that can be written. -/
structure Number.WellFormed (n : Number) : Prop where
  whole : WholePart n.digits
  tail : ∃ fraction exponent, Fraction fraction ∧ Exponent exponent ∧
    n.tail = fraction ++ exponent

/-- The characters of a string literal between its quotes, and its pieces. -/
inductive Literal : List Char → List Piece → Prop where
  | nil : Literal [] []
  | char {c : Char} {cs : List Char} {pieces : List Piece} (hc : 0x20 ≤ c.toNat)
    (hc' : c ≠ '"' ∧ c ≠ '\\') (h : Literal cs pieces) : Literal (c :: cs) (.char c :: pieces)
  | short {e c : Char} {cs : List Char} {pieces : List Piece} (he : shortEscape? e = some c)
    (h : Literal cs pieces) : Literal ('\\' :: e :: cs) (.char c :: pieces)
  | unit {a b c d : Char} {u : Nat} {cs : List Char} {pieces : List Piece}
    (hu : unit? a b c d = some u) (h : Literal cs pieces) :
    Literal ('\\' :: 'u' :: a :: b :: c :: d :: cs) (.unit u :: pieces)

/-- The literal of a key, with blanks around it. -/
inductive Key : List Char → Option String → Prop where
  | mk {before cs after : List Char} {pieces : List Piece} (hbefore : Blanks before)
    (h : Literal cs pieces) (hafter : Blanks after) :
    Key (before ++ '"' :: (cs ++ '"' :: after)) (Piece.join? pieces)

/-- What a part of a text stands for: a value, or what is between the brackets of a container. -/
inductive Phrase where
  | value (v : Json)
  | items (items : List Json)
  | members (members : List (Option String × Json))

/-- The grammar: which texts write which phrases. -/
inductive Writes : List Char → Phrase → Prop where
  | null : Writes ['n', 'u', 'l', 'l'] (.value .null)
  | true : Writes ['t', 'r', 'u', 'e'] (.value (.bool true))
  | false : Writes ['f', 'a', 'l', 's', 'e'] (.value (.bool false))
  | number {n : Number} (h : n.WellFormed) : Writes n.write.toList (.value (.number n))
  | string {cs : List Char} {pieces : List Piece} (h : Literal cs pieces) :
    Writes ('"' :: (cs ++ ['"'])) (.value (.string (Piece.join? pieces)))
  | array {cs : List Char} {items : List Json} (h : Writes cs (.items items)) :
    Writes ('[' :: (cs ++ [']'])) (.value (.array items))
  | object {cs : List Char} {members : List (Option String × Json)}
    (h : Writes cs (.members members)) :
    Writes ('\x7b' :: (cs ++ ['\x7d'])) (.value (.object members))
  | blanks {before cs after : List Char} {v : Json} (hbefore : Blanks before)
    (h : Writes cs (.value v)) (hafter : Blanks after) :
    Writes (before ++ (cs ++ after)) (.value v)
  | noItem {cs : List Char} (h : Blanks cs) : Writes cs (.items [])
  | lastItem {cs : List Char} {v : Json} (h : Writes cs (.value v)) : Writes cs (.items [v])
  | item {cs ds : List Char} {v w : Json} {items : List Json} (h : Writes cs (.value v))
    (hnext : Writes ds (.items (w :: items))) :
    Writes (cs ++ ',' :: ds) (.items (v :: w :: items))
  | noMember {cs : List Char} (h : Blanks cs) : Writes cs (.members [])
  | lastMember {ks cs : List Char} {key : Option String} {v : Json} (hkey : Key ks key)
    (h : Writes cs (.value v)) : Writes (ks ++ ':' :: cs) (.members [(key, v)])
  | member {ks cs ds : List Char} {key : Option String} {v : Json} {m : Option String × Json}
    {members : List (Option String × Json)} (hkey : Key ks key) (h : Writes cs (.value v))
    (hnext : Writes ds (.members (m :: members))) :
    Writes (ks ++ ':' :: (cs ++ ',' :: ds)) (.members ((key, v) :: m :: members))

/-- No character at all is no other than blanks. -/
lemma blanks_nil : Blanks [] := fun _ hc => absurd hc List.not_mem_nil

/-- Blanks may stand in front of a value. -/
lemma Writes.indent {before cs : List Char} {v : Json} (hbefore : Blanks before)
    (h : Writes cs (.value v)) : Writes (before ++ cs) (.value v) := by
  simpa using Writes.blanks hbefore h blanks_nil

/-! ## What is written -/

/-- A value that some text writes. -/
def Written (v : Json) : Prop := ∃ cs, Writes cs (.value v)

/-- The numbers of a phrase can be written, and so can the values in it. -/
def Phrase.Sound : Phrase → Prop
  | .value (.number n) => n.WellFormed
  | .value (.array vs) => ∀ v ∈ vs, Written v
  | .value (.object ms) => ∀ m ∈ ms, Written m.2
  | .value _ => True
  | .items vs => ∀ v ∈ vs, Written v
  | .members ms => ∀ m ∈ ms, Written m.2

/-- What a text writes is well-formed. -/
lemma Writes.sound {cs : List Char} {p : Phrase} (h : Writes cs p) : p.Sound := by
  induction h with
  | null => trivial
  | true => trivial
  | false => trivial
  | number h => exact h
  | string h => trivial
  | array h ih => exact ih
  | object h ih => exact ih
  | blanks hbefore h hafter ih => exact ih
  | noItem h => exact fun v hv => absurd hv (List.not_mem_nil)
  | lastItem h ih => exact List.forall_mem_singleton.2 ⟨_, h⟩
  | item h hnext ih ihnext => exact List.forall_mem_cons.2 ⟨⟨_, h⟩, ihnext⟩
  | noMember h => exact fun m hm => absurd hm (List.not_mem_nil)
  | lastMember hkey h ih => exact List.forall_mem_singleton.2 ⟨_, h⟩
  | member hkey h hnext ih ihnext => exact List.forall_mem_cons.2 ⟨⟨_, h⟩, ihnext⟩

namespace Written

/-- A number that some text writes is well-formed. -/
lemma wellFormed {n : Number} (h : Written (.number n)) : n.WellFormed := by
  obtain ⟨cs, hcs⟩ := h
  exact hcs.sound

/-- The items of an array that some text writes are written in it. -/
lemma items {items : List Json} (h : Written (.array items)) : ∀ v ∈ items, Written v := by
  obtain ⟨cs, hcs⟩ := h
  exact hcs.sound

/-- The members of an object that some text writes are written in it. -/
lemma members {members : List (Option String × Json)} (h : Written (.object members)) :
    ∀ m ∈ members, Written m.2 := by
  obtain ⟨cs, hcs⟩ := h
  exact hcs.sound

end Written

/-! ## Reading without fuel -/

/-- The token at the start of a text, which is no blank, and what follows it. -/
def Token.next? : List Char → Option (Token × List Char)
  | [] => none
  | c :: cs =>
    match Token.punctuation? c with
    | some t => some (t, cs)
    | none => Token.scanLong? (c :: cs)

/-- From some progress on, a text completes a value. -/
inductive Reads : Progress → List Char → Json → Prop where
  | nil (v : Json) : Reads (.after [] v) [] v
  | space {p : Progress} {c : Char} {rest : List Char} {v : Json}
    (hc : Token.isSpace c = true) (h : Reads p rest v) : Reads p (c :: rest) v
  | token {p p' : Progress} {t : Token} {c : Char} {cs rest : List Char} {v : Json}
    (hc : Token.isSpace c = false) (ht : Token.next? (c :: cs) = some (t, rest))
    (hlength : rest.length ≤ cs.length) (hp : p.step? t = some p') (h : Reads p' rest v) :
    Reads p (c :: cs) v

/-- Reading goes on behind the first token. -/
lemma Progress.run?_cons {p p' : Progress} {t : Token} (hp : p.step? t = some p')
    (ts : List Token) : p.run? (t :: ts) = p'.run? ts := by
  rw [run?, List.foldlM_cons, hp]
  rfl

/-- With enough fuel, the tokens of a text lead to the value that it completes. -/
lemma exists_tokens_of_reads {p : Progress} {cs : List Char} {v : Json} (h : Reads p cs v) :
    ∀ (fuel : Nat) (done : List Token), cs.length ≤ fuel →
      ∃ ts, Token.scanOnto? fuel done cs = some (done.reverse ++ ts) ∧
        (p.run? ts).bind Progress.result? = some v := by
  induction h with
  | nil v =>
    intro fuel done _
    exact ⟨[], by rw [Token.scanOnto?, List.append_nil], rfl⟩
  | space hc _ ih =>
    intro fuel done hfuel
    obtain ⟨fuel, rfl⟩ := Nat.exists_eq_add_one_of_ne_zero (Nat.ne_of_gt (Nat.lt_of_lt_of_le
      (Nat.zero_lt_succ _) hfuel))
    obtain ⟨ts, hts, hrun⟩ := ih fuel done (Nat.le_of_succ_le_succ hfuel)
    exact ⟨ts, by rw [Token.scanOnto?, if_pos hc, hts], hrun⟩
  | @token p p' t c cs rest v hc ht hlength hp _ ih =>
    intro fuel done hfuel
    obtain ⟨fuel, rfl⟩ := Nat.exists_eq_add_one_of_ne_zero (Nat.ne_of_gt (Nat.lt_of_lt_of_le
      (Nat.zero_lt_succ _) hfuel))
    obtain ⟨ts, hts, hrun⟩ :=
      ih fuel (t :: done) (hlength.trans (Nat.le_of_succ_le_succ hfuel))
    refine ⟨t :: ts, ?_, by rw [Progress.run?_cons hp, hrun]⟩
    rw [List.reverse_cons, List.append_assoc] at hts
    rw [Token.scanOnto?, if_neg (by simp [hc])]
    rw [Token.next?] at ht
    cases hpunctuation : Token.punctuation? c with
    | some u =>
      rw [hpunctuation] at ht
      cases ht
      exact hts
    | none =>
      simp only [hpunctuation] at ht
      simp only [ht]
      exact hts

/-- What a text completes from the start is its value. -/
theorem parse?_of_reads {s : String} {v : Json} (h : Reads (.value []) s.toList v) :
    parse? s = some v := by
  obtain ⟨ts, hts, hrun⟩ := exists_tokens_of_reads h s.toList.length [] (Nat.le_refl _)
  rw [parse?, Token.scan?, Token.scanList?, hts, Option.bind_some, List.reverse_nil,
    List.nil_append, ofTokens?, hrun]

/-! ## Strings -/

/-- A literal is scanned up to its closing quote. -/
lemma scanString?_append {cs : List Char} {pieces : List Piece} (h : Literal cs pieces)
    (done : List Piece) (rest : List Char) :
    scanString? done (cs ++ '"' :: rest) = some (done.reverse ++ pieces, rest) := by
  induction h generalizing done with
  | nil => rw [List.nil_append, scanString?, List.append_nil]
  | @char c cs pieces hc hc' _ ih =>
    have hstep : scanString? done (c :: (cs ++ '"' :: rest)) =
        scanString? (.char c :: done) (cs ++ '"' :: rest) := by
      rw [scanString?.eq_def]
      split
      · simp_all
      · simp_all
      · simp_all
      · simp_all
      · next heq =>
        cases heq
        exact if_neg (by rintro (h | h); exacts [absurd hc (Nat.not_le.2 h), hc'.2 h])
    rw [List.cons_append, hstep, ih, List.reverse_cons, List.append_assoc, List.singleton_append]
  | @short e c cs pieces he _ ih =>
    have hu : e ≠ 'u' := by rintro rfl; cases he
    have hstep : scanString? done ('\\' :: e :: (cs ++ '"' :: rest)) =
        scanString? (.char c :: done) (cs ++ '"' :: rest) := by
      rw [scanString?.eq_def]
      split
      · simp_all
      · simp_all
      · simp_all
      · simp_all
      · next hshort heq =>
        cases heq
        exact absurd rfl (hshort e _ rfl)
    rw [List.cons_append, List.cons_append, hstep, ih, List.reverse_cons, List.append_assoc,
      List.singleton_append]
  | @unit a b c d u cs pieces hu _ ih =>
    have hstep : scanString? done ('\\' :: 'u' :: a :: b :: c :: d :: (cs ++ '"' :: rest)) =
        scanString? (.unit u :: done) (cs ++ '"' :: rest) := by
      simp only [scanString?, hu]
    simp only [List.cons_append, hstep, ih, List.reverse_cons, List.append_assoc, List.nil_append]

/-- The literal of a string is a token. -/
lemma next?_string {cs : List Char} {pieces : List Piece} (h : Literal cs pieces)
    (rest : List Char) :
    Token.next? ('"' :: (cs ++ '"' :: rest)) = some (.string (Piece.join? pieces), rest) := by
  rw [Token.next?]
  simp only [show Token.punctuation? '"' = none from rfl, Token.scanLong?, scanString?_append h,
    List.reverse_nil, List.nil_append, Option.map_some]

/-! ## Numbers -/

/-- No digits go on into a text. -/
def EndsDigits (rest : List Char) : Prop := ∀ c ∈ rest.head?, Decimal.isDigit c = false

/-- No number goes on into a text. -/
def EndsNumber (rest : List Char) : Prop :=
  ∀ c ∈ rest.head?, Decimal.isDigit c = false ∧ c ∉ ['.', 'e', 'E']

/-- A number ends where the text does. -/
lemma endsNumber_nil : EndsNumber [] := by simp [EndsNumber]

/-- A number ends before a character that cannot go on with it. -/
lemma endsNumber_cons {c : Char} (h : Decimal.isDigit c = false ∧ c ∉ ['.', 'e', 'E'])
    (rest : List Char) : EndsNumber (c :: rest) := by
  rintro _ ⟨⟩
  exact h

section Numbers

variable {cs rest : List Char} {c : Char} {n : Number}

/-- Where a number ends, its digits end. -/
lemma EndsNumber.endsDigits (h : EndsNumber rest) : EndsDigits rest := fun c hc => (h c hc).1

/-- Digits end before a character that is none. -/
lemma endsDigits_cons (h : Decimal.isDigit c = false) (rest : List Char) :
    EndsDigits (c :: rest) := by
  rintro _ ⟨⟩
  exact h

/-- Digits are scanned as far as they go. -/
lemma scanDigits?_append (hcs : Digits cs) (h : EndsDigits rest) :
    scanDigits? (cs ++ rest) = some (cs, rest) := by
  have hspan : (cs ++ rest).span Decimal.isDigit = (cs, rest) := by
    rw [List.span_eq_takeWhile_dropWhile, List.takeWhile_append_of_pos hcs.isDigit,
      List.dropWhile_append_of_pos hcs.isDigit]
    cases rest with
    | nil => simp
    | cons c rest => simp [h c rfl]
  rw [scanDigits?, hspan]
  cases cs with
  | nil => exact absurd rfl hcs.ne_nil
  | cons d ds => rfl

/-- The digits before any point are scanned. -/
lemma scanWhole?_append (hcs : WholePart cs) (h : EndsDigits rest) :
    scanWhole? (cs ++ rest) = some (cs, rest) := by
  by_cases hzero : cs.head? = some '0'
  · rw [hcs.zero hzero]
    cases rest with
    | nil => rfl
    | cons c rest => simp [scanWhole?, h c rfl]
  · rw [← scanDigits?_append hcs.toDigits h]
    unfold scanWhole?
    split
    · next heq =>
      refine absurd ?_ hzero
      cases cs with
      | nil => exact absurd rfl hcs.ne_nil
      | cons c cs =>
        rw [List.cons_append, List.cons.injEq] at heq
        rw [heq.1, List.head?_cons]
    · rfl

/-- A fraction is scanned, or there is none. -/
lemma scanFraction?_append (hcs : Fraction cs) (h : EndsDigits rest)
    (hpoint : rest.head? ≠ some '.') : scanFraction? (cs ++ rest) = some (cs, rest) := by
  cases hcs with
  | none =>
    rw [List.nil_append]
    unfold scanFraction?
    split
    · exact absurd rfl hpoint
    · rfl
  | some hds =>
    rw [List.cons_append, scanFraction?, scanDigits?_append hds h]
    rfl

/-- An exponent is scanned, or there is none. -/
lemma scanExponent?_append (hcs : Exponent cs) (h : EndsNumber rest) :
    scanExponent? (cs ++ rest) = some (cs, rest) := by
  cases hcs with
  | none =>
    rw [List.nil_append]
    unfold scanExponent?
    split
    · rfl
    · next e rest =>
      refine if_neg fun he => (h e rfl).2 ?_
      rcases he with rfl | rfl <;> decide
  | @unsigned e ds he hds =>
    obtain ⟨d, ds, rfl⟩ := List.exists_cons_of_ne_nil hds.ne_nil
    have hd : ¬(d = '+' ∨ d = '-') := by
      have hdigit := hds.isDigit d List.mem_cons_self
      rintro (rfl | rfl) <;> cases hdigit
    have hscan := scanDigits?_append hds h.endsDigits
    rw [List.cons_append] at hscan
    simp only [List.cons_append, scanExponent?, if_pos he, if_neg hd, hscan, Option.map_some]
  | signed he hs hds =>
    simp only [List.cons_append, scanExponent?, if_pos he, if_pos hs,
      scanDigits?_append hds h.endsDigits, Option.map_some]

/-- What follows a fraction begins with an exponent, or ends the number. -/
lemma endsDigits_exponent (hcs : Exponent cs) (h : EndsNumber rest) :
    EndsDigits (cs ++ rest) ∧ (cs ++ rest).head? ≠ some '.' := by
  have hmark : ∀ {e : Char}, (e = 'e' ∨ e = 'E') → Decimal.isDigit e = false ∧ e ≠ '.' := by
    rintro e (rfl | rfl) <;> decide
  cases hcs with
  | none => exact ⟨h.endsDigits, fun hpoint => (h '.' hpoint).2 List.mem_cons_self⟩
  | unsigned he _ =>
    exact ⟨endsDigits_cons (hmark he).1 _, fun hpoint => (hmark he).2 (Option.some.inj hpoint)⟩
  | signed he _ _ =>
    exact ⟨endsDigits_cons (hmark he).1 _, fun hpoint => (hmark he).2 (Option.some.inj hpoint)⟩

/-- A number is scanned, behind its sign. -/
lemma scanNumber?_append (hn : n.WellFormed) (h : EndsNumber rest) :
    scanNumber? n.negative (n.digits ++ (n.tail ++ rest)) = some (n, rest) := by
  obtain ⟨fraction, exponent, hfraction, hexponent, htail⟩ := hn.tail
  obtain ⟨hends, hpoint⟩ := endsDigits_exponent hexponent h
  have hwhole : EndsDigits (fraction ++ (exponent ++ rest)) := by
    cases hfraction with
    | none => exact hends
    | some _ => exact endsDigits_cons (by decide) _
  rw [show n.tail ++ rest = fraction ++ (exponent ++ rest) by rw [htail, List.append_assoc]]
  simp only [scanNumber?, scanWhole?_append hn.whole hwhole,
    scanFraction?_append hfraction hends hpoint, scanExponent?_append hexponent h,
    Option.bind_eq_bind, Option.bind_some, Option.pure_def]
  rw [← htail]

/-- A digit begins a number. -/
lemma next?_of_isDigit (h : Decimal.isDigit c = true) (cs : List Char) :
    Token.next? (c :: cs) =
      (scanNumber? false (c :: cs)).map fun r => (.number r.1, r.2) := by
  have hmem := Decimal.mem_of_isDigit h
  simp only [List.mem_cons, List.not_mem_nil, or_false] at hmem
  rcases hmem with rfl | rfl | rfl | rfl | rfl | rfl | rfl | rfl | rfl | rfl <;> rfl

/-- A digit is no blank. -/
lemma isSpace_of_isDigit (h : Decimal.isDigit c = true) : Token.isSpace c = false := by
  have hmem := Decimal.mem_of_isDigit h
  simp only [List.mem_cons, List.not_mem_nil, or_false] at hmem
  rcases hmem with rfl | rfl | rfl | rfl | rfl | rfl | rfl | rfl | rfl | rfl <;> rfl

/-- A number is written as its sign, its digits and what stands behind them. -/
lemma toList_write (n : Number) :
    n.write.toList = (if n.negative then ['-'] else []) ++ (n.digits ++ n.tail) := by
  unfold Number.write
  split <;> simp

/-- A number is a token. -/
lemma next?_write (hn : n.WellFormed) (h : EndsNumber rest) :
    Token.next? (n.write.toList ++ rest) = some (.number n, rest) := by
  have hscan := scanNumber?_append hn h
  rw [toList_write, List.append_assoc, List.append_assoc]
  cases hnegative : n.negative with
  | true =>
    rw [hnegative] at hscan
    simp only [if_true, List.cons_append, List.nil_append, Token.next?,
      show Token.punctuation? '-' = none from rfl, Token.scanLong?, hscan, Option.map_some]
  | false =>
    rw [hnegative] at hscan
    obtain ⟨d, ds, hds⟩ := List.exists_cons_of_ne_nil hn.whole.ne_nil
    have hd : Decimal.isDigit d = true := hn.whole.isDigit d (hds ▸ List.mem_cons_self)
    rw [hds, List.cons_append] at hscan
    simp only [Bool.false_eq_true, if_false, List.nil_append, hds, List.cons_append,
      next?_of_isDigit hd, hscan, Option.map_some]

/-- A number is written with a digit or a sign at its start. -/
lemma exists_cons_write (hn : n.WellFormed) :
    ∃ c cs, n.write.toList = c :: cs ∧ Token.isSpace c = false := by
  rw [toList_write]
  cases n.negative with
  | true => exact ⟨'-', n.digits ++ n.tail, rfl, rfl⟩
  | false =>
    obtain ⟨d, ds, hds⟩ := List.exists_cons_of_ne_nil hn.whole.ne_nil
    have hd : Decimal.isDigit d = true := hn.whole.isDigit d (hds ▸ List.mem_cons_self)
    exact ⟨d, ds ++ n.tail, by rw [hds]; rfl, isSpace_of_isDigit hd⟩

end Numbers

/-! ## Progress -/

section Progress

variable {p p' : Progress} {t : Token} {cs rest : List Char} {w : Json}

/-- A token that is not blank is read. -/
lemma Reads.append {chars : List Char} (hchars : ∃ c cs, chars = c :: cs ∧ Token.isSpace c = false)
    (ht : Token.next? (chars ++ rest) = some (t, rest)) (hp : p.step? t = some p')
    (h : Reads p' rest w) : Reads p (chars ++ rest) w := by
  obtain ⟨c, cs, rfl, hc⟩ := hchars
  exact .token hc ht (by simp) hp h

/-- A character of punctuation is read. -/
lemma Reads.punctuation {c : Char} (hc : Token.isSpace c = false)
    (ht : Token.punctuation? c = some t) (hp : p.step? t = some p') (h : Reads p' rest w) :
    Reads p (c :: rest) w :=
  .token hc (by rw [Token.next?, ht]) (Nat.le_refl _) hp h

/-- The literal of a string is read. -/
lemma Reads.string {pieces : List Piece} (hcs : Literal cs pieces)
    (hp : p.step? (.string (Piece.join? pieces)) = some p') (h : Reads p' rest w) :
    Reads p ('"' :: (cs ++ '"' :: rest)) w :=
  .token rfl (next?_string hcs rest) (by simp; omega) hp h

/-- Blanks are passed over. -/
lemma Reads.blanks (hcs : Blanks cs) (h : Reads p rest w) : Reads p (cs ++ rest) w := by
  induction cs with
  | nil => exact h
  | cons c cs ih =>
    exact .space (hcs c List.mem_cons_self) (ih fun d hd => hcs d (List.mem_cons_of_mem c hd))

/-- A number ends at blanks. -/
lemma endsNumber_blanks (hcs : Blanks cs) (h : EndsNumber rest) : EndsNumber (cs ++ rest) := by
  cases cs with
  | nil => exact h
  | cons c cs =>
    have hc := hcs c List.mem_cons_self
    simp only [Token.isSpace, Bool.or_eq_true, beq_iff_eq] at hc
    refine endsNumber_cons ?_ _
    rcases hc with ((rfl | rfl) | rfl) | rfl <;> decide

/-- What is read from one progress on is read from any other that goes on as this one does. -/
lemma Reads.of_step {p q : Progress} (hnone : p.result? = none)
    (hstep : ∀ t p', p.step? t = some p' → q.step? t = some p') (h : Reads p rest w) :
    Reads q rest w := by
  induction h with
  | nil => cases hnone
  | space hc _ ih => exact .space hc (ih hnone hstep)
  | token hc ht hlength hp h => exact .token hc ht hlength (hstep _ _ hp) h

/-- What is read as a value is read as the first item of an array. -/
lemma Reads.firstItem {stack : List Frame} (h : Reads (.value (.array [] :: stack)) rest w) :
    Reads (.firstItem stack) rest w := by
  refine h.of_step rfl fun t p' hstep => ?_
  cases t with
  | closeArray => cases hstep
  | _ => exact hstep

/-- What is read as a further key is read as the first key of an object. -/
lemma Reads.firstKey {stack : List Frame} (h : Reads (.nextKey stack []) rest w) :
    Reads (.firstKey stack) rest w := by
  refine h.of_step rfl fun t p' hstep => ?_
  cases t with
  | string key => exact hstep
  | _ => cases hstep

/-- A key and its colon are read. -/
lemma Reads.key {stack : List Frame} {done : List (Option String × Json)} {key : Option String}
    (hkey : Key cs key) (h : Reads (.value (.object done key :: stack)) rest w) :
    Reads (.nextKey stack done) (cs ++ ':' :: rest) w := by
  cases hkey with
  | mk hbefore hliteral hafter =>
    have hcolon := Reads.punctuation (p := .colon stack done _) (c := ':') rfl rfl rfl h
    simpa using (Reads.string hliteral rfl (hcolon.blanks hafter)).blanks hbefore

end Progress

/-! ## Values -/

/-- How a phrase is read.  Between brackets there are blanks, or else parts behind those that are
`done` (in reverse). -/
def Phrase.ReadFrom (cs : List Char) : Phrase → Prop
  | .value v => ∀ stack rest w, EndsNumber rest → Reads (.after stack v) rest w →
      Reads (.value stack) (cs ++ rest) w
  | .items [] => Blanks cs
  | .items vs => ∀ done stack rest w,
      Reads (.after stack (.array (done.reverse ++ vs))) rest w →
      Reads (.value (.array done :: stack)) (cs ++ ']' :: rest) w
  | .members [] => Blanks cs
  | .members ms => ∀ done stack rest w,
      Reads (.after stack (.object (done.reverse ++ ms))) rest w →
      Reads (.nextKey stack done) (cs ++ '\x7d' :: rest) w

section Values

variable {cs ds ks : List Char} {v : Json}

/-- An array is read from its brackets and what is between them. -/
lemma readFrom_array {items : List Json} (h : (Phrase.items items).ReadFrom cs) :
    (Phrase.value (.array items)).ReadFrom ('[' :: (cs ++ [']'])) := by
  intro stack rest w _ hrest
  rw [List.cons_append, List.append_assoc, List.singleton_append]
  refine .punctuation (t := .openArray) rfl rfl rfl ?_
  cases items with
  | nil => exact (Reads.punctuation (t := .closeArray) rfl rfl rfl hrest).blanks h
  | cons v items => exact .firstItem (h [] stack rest w hrest)

/-- An object is read from its braces and what is between them. -/
lemma readFrom_object {members : List (Option String × Json)}
    (h : (Phrase.members members).ReadFrom cs) :
    (Phrase.value (.object members)).ReadFrom ('\x7b' :: (cs ++ ['\x7d'])) := by
  intro stack rest w _ hrest
  rw [List.cons_append, List.append_assoc, List.singleton_append]
  refine .punctuation (t := .openObject) rfl rfl rfl ?_
  cases members with
  | nil => exact (Reads.punctuation (t := .closeObject) rfl rfl rfl hrest).blanks h
  | cons m members => exact .firstKey (h [] stack rest w hrest)

/-- The last item of an array is read up to the closing bracket. -/
lemma readFrom_lastItem (h : (Phrase.value v).ReadFrom cs) : (Phrase.items [v]).ReadFrom cs := by
  intro done stack rest w hrest
  refine h _ _ w (endsNumber_cons (by decide) _) (.punctuation (t := .closeArray) rfl rfl rfl ?_)
  rwa [List.reverse_cons]

/-- An item of an array is read up to the comma. -/
lemma readFrom_item {v' : Json} {items : List Json} (h : (Phrase.value v).ReadFrom cs)
    (hnext : (Phrase.items (v' :: items)).ReadFrom ds) :
    (Phrase.items (v :: v' :: items)).ReadFrom (cs ++ ',' :: ds) := by
  intro done stack rest w hrest
  rw [List.append_assoc, List.cons_append]
  refine h _ _ w (endsNumber_cons (by decide) _) (.punctuation (t := .comma) rfl rfl rfl ?_)
  refine hnext (v :: done) stack rest w ?_
  rwa [List.reverse_cons, List.append_assoc, List.singleton_append]

/-- The last member of an object is read up to the closing brace. -/
lemma readFrom_lastMember {key : Option String} (hkey : Key ks key)
    (h : (Phrase.value v).ReadFrom cs) :
    (Phrase.members [(key, v)]).ReadFrom (ks ++ ':' :: cs) := by
  intro done stack rest w hrest
  rw [List.append_assoc, List.cons_append]
  refine .key hkey (h _ _ w (endsNumber_cons (by decide) _)
    (.punctuation (t := .closeObject) rfl rfl rfl ?_))
  rwa [List.reverse_cons]

/-- A member of an object is read up to the comma. -/
lemma readFrom_member {key : Option String} {m : Option String × Json}
    {members : List (Option String × Json)} (hkey : Key ks key)
    (h : (Phrase.value v).ReadFrom cs) (hnext : (Phrase.members (m :: members)).ReadFrom ds) :
    (Phrase.members ((key, v) :: m :: members)).ReadFrom (ks ++ ':' :: (cs ++ ',' :: ds)) := by
  intro done stack rest w hrest
  rw [List.append_assoc, List.cons_append, List.append_assoc, List.cons_append]
  refine .key hkey (h _ _ w (endsNumber_cons (by decide) _)
    (.punctuation (t := .comma) rfl rfl rfl ?_))
  refine hnext ((key, v) :: done) stack rest w ?_
  rwa [List.reverse_cons, List.append_assoc, List.singleton_append]

/-- Wherever a phrase is written, it is read. -/
lemma Writes.readFrom {p : Phrase} (h : Writes cs p) : p.ReadFrom cs := by
  induction h with
  | null => exact fun stack rest w _ hrest => .append ⟨'n', _, rfl, rfl⟩ rfl rfl hrest
  | true => exact fun stack rest w _ hrest => .append ⟨'t', _, rfl, rfl⟩ rfl rfl hrest
  | false => exact fun stack rest w _ hrest => .append ⟨'f', _, rfl, rfl⟩ rfl rfl hrest
  | number hn =>
    exact fun stack rest w hends hrest =>
      .append (exists_cons_write hn) (next?_write hn hends) rfl hrest
  | string hliteral =>
    intro stack rest w _ hrest
    simpa using Reads.string hliteral rfl hrest
  | array _ ih => exact readFrom_array ih
  | object _ ih => exact readFrom_object ih
  | blanks hbefore _ hafter ih =>
    intro stack rest w hends hrest
    rw [List.append_assoc, List.append_assoc]
    exact (ih stack _ w (endsNumber_blanks hafter hends) (hrest.blanks hafter)).blanks hbefore
  | noItem hcs => exact hcs
  | lastItem _ ih => exact readFrom_lastItem ih
  | item _ _ ih ihnext => exact readFrom_item ih ihnext
  | noMember hcs => exact hcs
  | lastMember hkey _ ih => exact readFrom_lastMember hkey ih
  | member hkey _ _ ih ihnext => exact readFrom_member hkey ih ihnext

end Values

/-- **A text is read as the value that it writes.**

**Proof sketch.** By induction on how the text is written.  A value is read wherever no number can
go on behind it, which is so at a comma, at a closing bracket, at a blank and at the end. -/
theorem parse?_of_writes {s : String} {v : Json} (h : Writes s.toList (.value v)) :
    parse? s = some v := by
  have hreads := h.readFrom [] [] v endsNumber_nil (.nil v)
  rw [List.append_nil] at hreads
  exact parse?_of_reads hreads

end Json

end InFlight
