import InFlight.Proofs.Http.Effects
import InFlight.Proofs.Text.Decimal

/-!
# What a query asks for

A query gives every key a number.  It is the 64-bit integer that the value of the last assignment to
the key writes, with blanks around it dropped; and zero if there is no assignment to the key, or if
the last one has a value that writes no such integer, whatever earlier ones have.

## Main definitions

* `InFlight.Query.LastValue` — the value of the last assignment to a key.
* `InFlight.Query.Gives` — the number that a query gives a key.

## Main results

* `InFlight.Query.number_eq_iff` — the number read for a key is the one that the query gives it.
* `InFlight.Http.route_path_append` — a request with a query, at the path of an endpoint.
-/

set_option relaxedAutoImplicit false
set_option autoImplicit false

namespace InFlight

namespace Query

/-- The value of the last assignment to a key. -/
def LastValue (q : Query) (key value : String) : Prop :=
  ∃ before after, q = before ++ (key, value) :: after ∧ ∀ a ∈ after, a.1 ≠ key

/-- The number that a query gives a key. -/
inductive Gives (q : Query) (key : String) : Int → Prop where
  | written {value : String} {i : Int} (hlast : q.LastValue key value)
    (hwrites : Decimal.Writes (Text.trimList value.toList) i) (hlow : Decimal.int64Min ≤ i)
    (hhigh : i ≤ Decimal.int64Max) : Gives q key i
  | unassigned (hnone : ∀ a ∈ q, a.1 ≠ key) : Gives q key 0
  | unreadable {value : String} (hlast : q.LastValue key value)
    (hnone : ∀ i, Decimal.Writes (Text.trimList value.toList) i → Decimal.int64Min ≤ i →
      ¬i ≤ Decimal.int64Max) : Gives q key 0

variable {q : Query} {key value : String} {i : Int}

/-- The value of a key is that of the last assignment to it. -/
lemma value?_eq_some_iff : q.value? key = some value ↔ q.LastValue key value := by
  have hne : ∀ a : String × String, (key != a.1) = true ↔ a.1 ≠ key := fun a => by
    rw [bne_iff_ne, ne_comm]
  rw [value?, List.lookup_eq_some_iff]
  simp only [hne]
  constructor
  · rintro ⟨after, before, hq, hafter⟩
    refine ⟨before.reverse, after.reverse, ?_, fun a ha => hafter a (List.mem_reverse.1 ha)⟩
    rw [← List.reverse_reverse q, hq]
    simp
  · rintro ⟨before, after, rfl, hafter⟩
    exact ⟨after.reverse, before.reverse, by simp, fun a ha => hafter a (List.mem_reverse.1 ha)⟩

/-- A key has no value if there is no assignment to it. -/
lemma value?_eq_none_iff : q.value? key = none ↔ ∀ a ∈ q, a.1 ≠ key := by
  rw [value?, List.lookup_eq_none_iff]
  refine forall_congr' fun a => ?_
  rw [List.mem_reverse, bne_iff_ne, ne_comm]

/-- A value with its blanks dropped is read as the 64-bit integer that it writes. -/
lemma int64?_trim_eq_some_iff : Decimal.int64? (Text.trim value) = some i ↔
    Decimal.Writes (Text.trimList value.toList) i ∧
      Decimal.int64Min ≤ i ∧ i ≤ Decimal.int64Max := by
  rw [Decimal.int64?_eq_some_iff, Text.trim, String.toList_ofList]

/-- A query gives a key the number that is read for it. -/
lemma gives_number (q : Query) (key : String) : q.Gives key (q.number key) := by
  unfold number
  cases hvalue : q.value? key with
  | none => exact .unassigned (value?_eq_none_iff.1 hvalue)
  | some value =>
    have hlast := value?_eq_some_iff.1 hvalue
    rw [Option.bind_some]
    cases hread : Decimal.int64? (Text.trim value) with
    | none =>
      refine .unreadable hlast fun i hwrites hlow hhigh => ?_
      rw [int64?_trim_eq_some_iff.2 ⟨hwrites, hlow, hhigh⟩] at hread
      cases hread
    | some i =>
      obtain ⟨hwrites, hlow, hhigh⟩ := int64?_trim_eq_some_iff.1 hread
      exact .written hlast hwrites hlow hhigh

/-- **The number read for a key** is the one number that the query gives it. -/
theorem number_eq_iff : q.number key = i ↔ q.Gives key i := by
  constructor
  · rintro rfl
    exact q.gives_number key
  · intro h
    unfold number
    cases h with
    | written hlast hwrites hlow hhigh =>
      rw [value?_eq_some_iff.2 hlast, Option.bind_some,
        int64?_trim_eq_some_iff.2 ⟨hwrites, hlow, hhigh⟩, Option.getD_some]
    | unassigned hnone => rw [value?_eq_none_iff.2 hnone, Option.bind_none, Option.getD_none]
    | @unreadable value hlast hnone =>
      have hread : Decimal.int64? (Text.trim value) = none := by
        refine Option.eq_none_iff_forall_ne_some.2 fun i hi => ?_
        obtain ⟨hwrites, hlow, hhigh⟩ := int64?_trim_eq_some_iff.1 hi
        exact hnone i hwrites hlow hhigh
      rw [value?_eq_some_iff.2 hlast, Option.bind_some, hread, Option.getD_none]

end Query

namespace Http

/-- The path of an endpoint has no question mark and does not end in a slash. -/
lemma Endpoint.names_path_append (e : Endpoint) (query : String) :
    Names (e.path ++ "?" ++ query) e.path := by
  refine ⟨by cases e <;> decide, by cases e <;> decide, 0, '?' :: query.toList, ?_, .inr rfl⟩
  simp [String.toList_append]

/-- **A request at an endpoint with a query** is answered there, for this query. -/
theorem route_path_append (e : Endpoint) (s : Service) (query body : String) (now : Instant) :
    route s e.method (e.path ++ "?" ++ query) body now =
      e.answer s (Query.parse query) body now := by
  have hpath : Endpoint.ofPath? (pathOf (e.path ++ "?" ++ query)) = some e := by
    rw [names_iff.1 (e.names_path_append query), e.ofPath?_path]
  have hquery : (splitTarget (e.path ++ "?" ++ query)).2 = Query.parse query := by
    obtain ⟨hmark, -⟩ := e.names_path_append query
    have hcut : Text.cutList '?' (e.path ++ "?" ++ query).toList =
        (e.path.toList, some query.toList) := by
      rw [String.toList_append, String.toList_append, List.append_assoc]
      exact Text.cutList_append hmark query.toList
    simp only [splitTarget, Text.cut, hcut, Option.map_some, Option.getD_some,
      String.ofList_toList]
  rw [route_of_method_eq hpath rfl, hquery]

end Http

end InFlight
