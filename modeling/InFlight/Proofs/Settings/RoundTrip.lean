import Mathlib.Data.List.Nodup
import Mathlib.Tactic.Lemma
import InFlight.Proofs.Json.RoundTrip
import InFlight.Settings.Format

/-!
# Settings read as they were written

Settings whose numbers are within the ranges of their fields are written as a text that is read as
the same settings again.

## Main definitions

* `InFlight.Settings.InRange` — every number is within the range of its field.

## Main results

* `InFlight.Json.fields?_record` — the fields of a record that was written.
* `InFlight.Settings.ofJson?_toJson`, `InFlight.Settings.parse_toText` — settings are read as they
  were written.
-/

set_option relaxedAutoImplicit false
set_option autoImplicit false

namespace InFlight

/-! ## Records -/

namespace Json

/-- A record with the given keys, none of them twice, has those fields. -/
lemma fields?_record {members : List (String × Json)} {names : List String}
    (hnames : members.map Prod.fst = names) (hnodup : names.Nodup) :
    (record members).fields? names = some members := by
  subst hnames
  have hkeyed : (members.map fun m => (some m.1, m.2)).mapM
      (fun m : Option String × Json => m.1.map fun key => (key, m.2)) = some members := by
    rw [List.mapM_map]
    exact (List.mapM_pure (m := Option) (f := id)).trans (by rw [List.map_id]; rfl)
  have hknown : members.filter (fun m => (members.map Prod.fst).contains m.1) = members :=
    List.filter_eq_self.2 fun m hm => List.contains_iff_mem.2 (List.mem_map_of_mem hm)
  have honce : ∀ name ∈ members.map Prod.fst, (members.filter fun m => m.1 == name).length ≤ 1 := by
    intro name _
    rw [← List.countP_eq_length_filter]
    exact (List.countP_map (p := fun key => key == name)).ge.trans
      (List.nodup_iff_count_le_one.1 hnodup name)
  rw [record, fields?, hkeyed]
  simp only [hknown]
  exact if_pos (List.all_eq_true.2 fun name hname => decide_eq_true (honce name hname))

/-- A plain record. -/
lemma plain_record {members : List (String × Json)} (h : ∀ m ∈ members, Plain m.2) :
    Plain (record members) := by
  refine .object (fun m hm => ?_) fun m hm => ?_
  · obtain ⟨m', -, rfl⟩ := List.mem_map.1 hm
    rfl
  · obtain ⟨m', hm', rfl⟩ := List.mem_map.1 hm
    exact h m' hm'

/-- A natural number is a plain value. -/
lemma plain_nat (n : Nat) : Plain (nat n) := .int n

/-- Integers in a range are read one by one. -/
lemma listOf?_int64 {is : List Int}
    (h : ∀ i ∈ is, Decimal.int64Min ≤ i ∧ i ≤ Decimal.int64Max) :
    listOf? int64? (.array (is.map int)) = some is := by
  rw [listOf?, List.mapM_map]
  induction is with
  | nil => rfl
  | cons i is ih =>
    obtain ⟨hlow, hhigh⟩ := h i List.mem_cons_self
    rw [List.mapM_cons, Function.comp_apply, int64?_int hlow hhigh,
      ih fun j hj => h j (List.mem_cons_of_mem i hj)]
    rfl

end Json

/-! ## Settings -/

namespace Settings

/-- Every number is within the range of its field. -/
structure InRange (s : Settings) : Prop where
  port : s.port ≤ 65535
  adminIds : ∀ id ∈ s.adminIds, Decimal.int64Min ≤ id ∧ id ≤ Decimal.int64Max
  globalSlots : s.limits.globalSlots ≤ Decimal.word64Max
  ownerSlots : s.limits.ownerSlots ≤ Decimal.word64Max
  intervalSecs : s.scanner.intervalSecs ≤ Decimal.word64Max
  windowSecs : Decimal.int64Min ≤ s.scanner.windowSecs ∧ s.scanner.windowSecs ≤ Decimal.int64Max
  threshold : s.scanner.threshold ≤ Decimal.word64Max

variable {s : Settings}

/-- Settings are plain: integers, texts and truth values. -/
lemma plain_toJson (s : Settings) : s.toJson.Plain := by
  have hids : (Json.array (s.adminIds.map Json.int)).Plain := .array fun v hv => by
    obtain ⟨id, -, rfl⟩ := List.mem_map.1 hv
    exact .int id
  have hlimits : (Json.record [
      ("global_slots", .nat s.limits.globalSlots),
      ("owner_slots", .nat s.limits.ownerSlots)]).Plain :=
    Json.plain_record (by simp [Json.plain_nat])
  have hscanner : (Json.record [
      ("enabled", .bool s.scanner.enabled),
      ("interval_secs", .nat s.scanner.intervalSecs),
      ("window_secs", .int s.scanner.windowSecs),
      ("threshold", .nat s.scanner.threshold)]).Plain :=
    Json.plain_record (by simp [Json.plain_nat, Json.Plain.int, Json.Plain.bool])
  exact Json.plain_record
    (by simp [Json.plain_nat, Json.Plain.text, hids, hlimits, hscanner])

/-- Slot limits are read as they were written. -/
lemma ofJson?_limits (h : s.InRange) :
    Limits.ofJson? (.record [
      ("global_slots", .nat s.limits.globalSlots),
      ("owner_slots", .nat s.limits.ownerSlots)]) = some s.limits := by
  rw [Limits.ofJson?, Json.fields?_record]
  · simp [Json.Fields.optional?, List.lookup_cons, Json.word64?_nat h.globalSlots,
      Json.word64?_nat h.ownerSlots]
  · rfl
  · decide

/-- Sweep settings are read as they were written. -/
lemma ofJson?_scanner (h : s.InRange) :
    Audit.SweepSettings.ofJson? (.record [
      ("enabled", .bool s.scanner.enabled),
      ("interval_secs", .nat s.scanner.intervalSecs),
      ("window_secs", .int s.scanner.windowSecs),
      ("threshold", .nat s.scanner.threshold)]) = some s.scanner := by
  rw [Audit.SweepSettings.ofJson?, Json.fields?_record]
  · simp [Json.Fields.optional?, List.lookup_cons, Json.bool?, Json.word64?_nat h.intervalSecs,
      Json.int64?_int h.windowSecs.1 h.windowSecs.2, Json.word64?_nat h.threshold]
  · rfl
  · decide

/-- **Settings are read as they were written.** -/
theorem ofJson?_toJson (h : s.InRange) : ofJson? s.toJson = some s := by
  rw [ofJson?, toJson, Json.fields?_record]
  · simp [Json.Fields.optional?, List.lookup_cons, Json.text, Json.text?, Json.nat?_nat h.port,
      Json.listOf?_int64 h.adminIds, ofJson?_limits h, ofJson?_scanner h]
  · rfl
  · decide

/-- The text of settings is read as those settings. -/
theorem parse_toText (h : s.InRange) : parse s.toText = .ok s := by
  rw [parse, toText, Json.parse?_indented s.plain_toJson, Option.bind_some, ofJson?_toJson h]

end Settings

end InFlight
