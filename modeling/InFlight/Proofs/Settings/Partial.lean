import Mathlib.Tactic.Lemma
import InFlight.Proofs.Json.Fields
import InFlight.Proofs.Settings.Save

/-!
# Settings that are given in part

A settings file may leave out any field, also inside the slot limits and the sweep settings, and may
hold other fields.  What it gives stands in the place of the defaults, field by field, in whatever
order.  A file that gives a field twice, or a value that the field cannot have, is refused as a
whole, and so is one with a key that is no text, which names no field.

## Main definitions

* `InFlight.Settings.Draft`, `InFlight.Limits.Draft`, `InFlight.Audit.SweepSettings.Draft` — which
  fields are given, and as what.
* `InFlight.Settings.Draft.applyTo` — settings with these fields in place of their own.
* `InFlight.Settings.Draft.GivenBy` — a value gives exactly these fields.
* `InFlight.Settings.faults` — which values the fields cannot have.

## Main results

* `InFlight.Settings.ofJson?_of_givenBy`, `InFlight.Settings.ofJson?_of_faulty` — what is read from
  a value.
* `InFlight.Settings.exists_givenBy` — a value that is not at fault gives the fields of some draft.
* `InFlight.Settings.load_partial` — what is loaded from a file.
-/

set_option relaxedAutoImplicit false
set_option autoImplicit false

namespace InFlight

open Json (Gives NotA IsNat IsInt64 IsBool IsText IsListOf FaultyRecord)

/-! ## Slot limits -/

namespace Limits

/-- Which slot limits are given, and as what. -/
structure Draft where
  globalSlots : Option Nat := none
  ownerSlots : Option Nat := none

/-- Slot limits with those of a draft in place of their own. -/
def Draft.applyTo (d : Draft) (l : Limits) : Limits where
  globalSlots := d.globalSlots.getD l.globalSlots
  ownerSlots := d.ownerSlots.getD l.ownerSlots

/-- A value gives exactly the slot limits of a draft. -/
structure Draft.GivenBy (d : Draft) (v : Json) : Prop where
  isRecord : v.IsRecord fieldNames
  globalSlots : Gives (IsNat Decimal.word64Max) (v.valuesOf fieldNames "global_slots") d.globalSlots
  ownerSlots : Gives (IsNat Decimal.word64Max) (v.valuesOf fieldNames "owner_slots") d.ownerSlots

/-- Which values slot limits cannot have. -/
def faults : List (String × (Json → Prop)) :=
  [("global_slots", NotA (IsNat Decimal.word64Max)),
    ("owner_slots", NotA (IsNat Decimal.word64Max))]

/-- The faults are listed for the fields of the limits, in their order. -/
lemma map_fst_faults : faults.map Prod.fst = fieldNames := rfl

variable {d : Draft} {v : Json}

/-- The slot limits that a value gives are read, and the others have their defaults. -/
lemma ofJson?_of_givenBy (hv : v.Written) (h : d.GivenBy v) : ofJson? v = some (d.applyTo {}) := by
  have honce : ∀ name ∈ fieldNames, (v.valuesOf fieldNames name).length ≤ 1 := by
    simp only [fieldNames, List.forall_mem_cons]
    exact ⟨h.globalSlots.length_le, h.ownerSlots.length_le, by simp⟩
  obtain ⟨fs, hfs, hlookup⟩ := Json.exists_fields (by decide) h.isRecord honce
  simp only [ofJson?, hfs, Option.bind_eq_bind, Option.bind_some,
    h.globalSlots.optional?_eq hv (hlookup _ (by decide)) Json.readsAs_word64?,
    h.ownerSlots.optional?_eq hv (hlookup _ (by decide)) Json.readsAs_word64?]
  rfl

/-- Slot limits at fault are not read. -/
lemma ofJson?_of_faulty (hv : v.Written) (h : FaultyRecord faults v) : ofJson? v = none := by
  rw [ofJson?]
  cases hfs : v.fields? fieldNames with
  | none => rfl
  | some fs =>
    obtain ⟨fault, hfault, u, hlookup, hu, hbad⟩ :=
      Json.exists_fault map_fst_faults (by decide) hv hfs h
    simp only [faults, List.mem_cons, List.not_mem_nil, or_false] at hfault
    rcases hfault with rfl | rfl
    · simp [Json.optional?_eq_none hlookup (Json.readsAs_word64?.eq_none hu hbad)]
    · simp [Json.optional?_eq_none hlookup (Json.readsAs_word64?.eq_none hu hbad)]

/-- A value that is not at fault gives some slot limits. -/
lemma exists_givenBy (h : ¬FaultyRecord faults v) : ∃ d : Draft, d.GivenBy v := by
  have hnat := fun name => Json.exists_gives_of_notA (IsNat Decimal.word64Max) name map_fst_faults h
  obtain ⟨globalSlots, hglobalSlots⟩ := hnat "global_slots" (by simp [faults])
  obtain ⟨ownerSlots, hownerSlots⟩ := hnat "owner_slots" (by simp [faults])
  exact ⟨⟨globalSlots, ownerSlots⟩, Json.isRecord_of_not_faulty map_fst_faults h, hglobalSlots,
    hownerSlots⟩

end Limits

/-! ## Sweep settings -/

namespace Audit.SweepSettings

/-- Which sweep settings are given, and as what. -/
structure Draft where
  enabled : Option Bool := none
  intervalSecs : Option Nat := none
  windowSecs : Option Int := none
  threshold : Option Nat := none

/-- Sweep settings with those of a draft in place of their own. -/
def Draft.applyTo (d : Draft) (s : SweepSettings) : SweepSettings where
  enabled := d.enabled.getD s.enabled
  intervalSecs := d.intervalSecs.getD s.intervalSecs
  windowSecs := d.windowSecs.getD s.windowSecs
  threshold := d.threshold.getD s.threshold

/-- A value gives exactly the sweep settings of a draft. -/
structure Draft.GivenBy (d : Draft) (v : Json) : Prop where
  isRecord : v.IsRecord fieldNames
  enabled : Gives IsBool (v.valuesOf fieldNames "enabled") d.enabled
  intervalSecs :
    Gives (IsNat Decimal.word64Max) (v.valuesOf fieldNames "interval_secs") d.intervalSecs
  windowSecs : Gives IsInt64 (v.valuesOf fieldNames "window_secs") d.windowSecs
  threshold : Gives (IsNat Decimal.word64Max) (v.valuesOf fieldNames "threshold") d.threshold

/-- Which values sweep settings cannot have. -/
def faults : List (String × (Json → Prop)) :=
  [("enabled", NotA IsBool), ("interval_secs", NotA (IsNat Decimal.word64Max)),
    ("window_secs", NotA IsInt64), ("threshold", NotA (IsNat Decimal.word64Max))]

/-- The faults are listed for the fields of the sweep settings, in their order. -/
lemma map_fst_faults : faults.map Prod.fst = fieldNames := rfl

variable {d : Draft} {v : Json}

/-- The sweep settings that a value gives are read, and the others have their defaults. -/
lemma ofJson?_of_givenBy (hv : v.Written) (h : d.GivenBy v) : ofJson? v = some (d.applyTo {}) := by
  have honce : ∀ name ∈ fieldNames, (v.valuesOf fieldNames name).length ≤ 1 := by
    simp only [fieldNames, List.forall_mem_cons]
    exact ⟨h.enabled.length_le, h.intervalSecs.length_le, h.windowSecs.length_le,
      h.threshold.length_le, by simp⟩
  obtain ⟨fs, hfs, hlookup⟩ := Json.exists_fields (by decide) h.isRecord honce
  simp only [ofJson?, hfs, Option.bind_eq_bind, Option.bind_some,
    h.enabled.optional?_eq hv (hlookup _ (by decide)) Json.readsAs_bool?,
    h.intervalSecs.optional?_eq hv (hlookup _ (by decide)) Json.readsAs_word64?,
    h.windowSecs.optional?_eq hv (hlookup _ (by decide)) Json.readsAs_int64?,
    h.threshold.optional?_eq hv (hlookup _ (by decide)) Json.readsAs_word64?]
  rfl

/-- Sweep settings at fault are not read. -/
lemma ofJson?_of_faulty (hv : v.Written) (h : FaultyRecord faults v) : ofJson? v = none := by
  rw [ofJson?]
  cases hfs : v.fields? fieldNames with
  | none => rfl
  | some fs =>
    obtain ⟨fault, hfault, u, hlookup, hu, hbad⟩ :=
      Json.exists_fault map_fst_faults (by decide) hv hfs h
    simp only [faults, List.mem_cons, List.not_mem_nil, or_false] at hfault
    rcases hfault with rfl | rfl | rfl | rfl
    · simp [Json.optional?_eq_none hlookup (Json.readsAs_bool?.eq_none hu hbad)]
    · simp [Json.optional?_eq_none hlookup (Json.readsAs_word64?.eq_none hu hbad)]
    · simp [Json.optional?_eq_none hlookup (Json.readsAs_int64?.eq_none hu hbad)]
    · simp [Json.optional?_eq_none hlookup (Json.readsAs_word64?.eq_none hu hbad)]

/-- A value that is not at fault gives some sweep settings. -/
lemma exists_givenBy (h : ¬FaultyRecord faults v) : ∃ d : Draft, d.GivenBy v := by
  have hnat := fun name => Json.exists_gives_of_notA (IsNat Decimal.word64Max) name map_fst_faults h
  obtain ⟨enabled, henabled⟩ :=
    Json.exists_gives_of_notA IsBool "enabled" map_fst_faults h (by simp [faults])
  obtain ⟨intervalSecs, hintervalSecs⟩ := hnat "interval_secs" (by simp [faults])
  obtain ⟨windowSecs, hwindowSecs⟩ :=
    Json.exists_gives_of_notA IsInt64 "window_secs" map_fst_faults h (by simp [faults])
  obtain ⟨threshold, hthreshold⟩ := hnat "threshold" (by simp [faults])
  exact ⟨⟨enabled, intervalSecs, windowSecs, threshold⟩,
    Json.isRecord_of_not_faulty map_fst_faults h, henabled, hintervalSecs, hwindowSecs, hthreshold⟩

end Audit.SweepSettings

/-! ## Settings -/

namespace Settings

/-- Which settings are given, and as what. -/
structure Draft where
  bind : Option String := none
  port : Option Nat := none
  historyDb : Option String := none
  adminIds : Option (List OwnerId) := none
  logFilter : Option String := none
  limits : Option Limits.Draft := none
  scanner : Option Audit.SweepSettings.Draft := none

/-- Settings with those of a draft in place of their own, field by field, also inside the slot
limits and the sweep settings. -/
def Draft.applyTo (d : Draft) (s : Settings) : Settings where
  bind := d.bind.getD s.bind
  port := d.port.getD s.port
  historyDb := d.historyDb.getD s.historyDb
  adminIds := d.adminIds.getD s.adminIds
  logFilter := d.logFilter.getD s.logFilter
  limits := (d.limits.map fun l => l.applyTo s.limits).getD s.limits
  scanner := (d.scanner.map fun c => c.applyTo s.scanner).getD s.scanner

/-- A value gives exactly the settings of a draft. -/
structure Draft.GivenBy (d : Draft) (v : Json) : Prop where
  isRecord : v.IsRecord fieldNames
  bind : Gives IsText (v.valuesOf fieldNames "bind") d.bind
  port : Gives (IsNat 65535) (v.valuesOf fieldNames "port") d.port
  historyDb : Gives IsText (v.valuesOf fieldNames "history_db") d.historyDb
  adminIds : Gives (IsListOf IsInt64) (v.valuesOf fieldNames "admin_ids") d.adminIds
  logFilter : Gives IsText (v.valuesOf fieldNames "log_filter") d.logFilter
  limits : Gives Limits.Draft.GivenBy (v.valuesOf fieldNames "limits") d.limits
  scanner : Gives Audit.SweepSettings.Draft.GivenBy (v.valuesOf fieldNames "scanner") d.scanner

/-- Which values settings cannot have. -/
def faults : List (String × (Json → Prop)) :=
  [("bind", NotA IsText), ("port", NotA (IsNat 65535)), ("history_db", NotA IsText),
    ("admin_ids", NotA (IsListOf IsInt64)), ("log_filter", NotA IsText),
    ("limits", FaultyRecord Limits.faults), ("scanner", FaultyRecord Audit.SweepSettings.faults)]

/-- The faults are listed for the fields of the settings, in their order. -/
lemma map_fst_faults : faults.map Prod.fst = fieldNames := rfl

/-- Lists of account numbers are read as such. -/
lemma readsAs_adminIds : Json.ReadsAs (Json.listOf? Json.int64?) (IsListOf IsInt64) :=
  Json.readsAs_listOf? Json.readsAs_int64?

variable {d : Draft} {v : Json}

/-- **The settings that a value gives are read**, and the others have their defaults. -/
theorem ofJson?_of_givenBy (hv : v.Written) (h : d.GivenBy v) :
    ofJson? v = some (d.applyTo {}) := by
  have honce : ∀ name ∈ fieldNames, (v.valuesOf fieldNames name).length ≤ 1 := by
    simp only [fieldNames, List.forall_mem_cons]
    exact ⟨h.bind.length_le, h.port.length_le, h.historyDb.length_le, h.adminIds.length_le,
      h.logFilter.length_le, h.limits.length_le, h.scanner.length_le, by simp⟩
  obtain ⟨fs, hfs, hlookup⟩ := Json.exists_fields (by decide) h.isRecord honce
  simp only [ofJson?, hfs, Option.bind_eq_bind, Option.bind_some,
    h.bind.optional?_eq hv (hlookup _ (by decide)) Json.readsAs_text?,
    h.port.optional?_eq hv (hlookup _ (by decide)) (Json.readsAs_nat? 65535),
    h.historyDb.optional?_eq hv (hlookup _ (by decide)) Json.readsAs_text?,
    h.adminIds.optional?_eq hv (hlookup _ (by decide)) readsAs_adminIds,
    h.logFilter.optional?_eq hv (hlookup _ (by decide)) Json.readsAs_text?,
    h.limits.optional?_map hv (hlookup _ (by decide))
      fun _ _ hu hl => Limits.ofJson?_of_givenBy hu hl,
    h.scanner.optional?_map hv (hlookup _ (by decide))
      fun _ _ hu hc => Audit.SweepSettings.ofJson?_of_givenBy hu hc]
  rfl

/-- **Settings at fault are not read.** -/
theorem ofJson?_of_faulty (hv : v.Written) (h : FaultyRecord faults v) : ofJson? v = none := by
  rw [ofJson?]
  cases hfs : v.fields? fieldNames with
  | none => rfl
  | some fs =>
    obtain ⟨fault, hfault, u, hlookup, hu, hbad⟩ :=
      Json.exists_fault map_fst_faults (by decide) hv hfs h
    simp only [faults, List.mem_cons, List.not_mem_nil, or_false] at hfault
    rcases hfault with rfl | rfl | rfl | rfl | rfl | rfl | rfl
    · simp [Json.optional?_eq_none hlookup (Json.readsAs_text?.eq_none hu hbad)]
    · simp [Json.optional?_eq_none hlookup ((Json.readsAs_nat? 65535).eq_none hu hbad)]
    · simp [Json.optional?_eq_none hlookup (Json.readsAs_text?.eq_none hu hbad)]
    · simp [Json.optional?_eq_none hlookup (readsAs_adminIds.eq_none hu hbad)]
    · simp [Json.optional?_eq_none hlookup (Json.readsAs_text?.eq_none hu hbad)]
    · simp [Json.optional?_eq_none hlookup (Limits.ofJson?_of_faulty hu hbad)]
    · simp [Json.optional?_eq_none hlookup (Audit.SweepSettings.ofJson?_of_faulty hu hbad)]

/-- **A value that is not at fault gives some settings**, so that these are all the cases there
are. -/
theorem exists_givenBy (h : ¬FaultyRecord faults v) : ∃ d : Draft, d.GivenBy v := by
  have htext := fun name => Json.exists_gives_of_notA IsText name map_fst_faults h
  obtain ⟨bind, hbind⟩ := htext "bind" (by simp [faults])
  obtain ⟨port, hport⟩ :=
    Json.exists_gives_of_notA (IsNat 65535) "port" map_fst_faults h (by simp [faults])
  obtain ⟨historyDb, hhistoryDb⟩ := htext "history_db" (by simp [faults])
  obtain ⟨adminIds, hadminIds⟩ :=
    Json.exists_gives_of_notA (IsListOf IsInt64) "admin_ids" map_fst_faults h (by simp [faults])
  obtain ⟨logFilter, hlogFilter⟩ := htext "log_filter" (by simp [faults])
  obtain ⟨limits, hlimits⟩ := Json.exists_gives Limits.Draft.GivenBy "limits" map_fst_faults h
    (show ("limits", FaultyRecord Limits.faults) ∈ faults by simp [faults])
    fun _ => Limits.exists_givenBy
  obtain ⟨scanner, hscanner⟩ := Json.exists_gives Audit.SweepSettings.Draft.GivenBy "scanner"
    map_fst_faults h
    (show ("scanner", FaultyRecord Audit.SweepSettings.faults) ∈ faults by simp [faults])
    fun _ => Audit.SweepSettings.exists_givenBy
  exact ⟨⟨bind, port, historyDb, adminIds, logFilter, limits, scanner⟩,
    Json.isRecord_of_not_faulty map_fst_faults h, hbind, hport, hhistoryDb, hadminIds, hlogFilter,
    hlimits, hscanner⟩

/-! ## Loading -/

variable {files : FileTree} {path text : String}

/-- What is loaded from a file is what its text gives, if it fits together. -/
lemma load_of_writes (hread : files.read path = .ok text.toUTF8)
    (htext : Json.Writes text.toList (.value v)) :
    load files path =
      match ofJson? v with
      | some s => s.validate.map fun _ => s
      | none => .error .json := by
  rw [load, hread]
  simp only [Utf8.decode?_toUTF8, parse, Json.parse?_of_writes htext, Option.bind_some]
  cases ofJson? v <;> rfl

/-- **Settings that are given in part.**  For any file with a text that writes some value, such as
an object:

* If the value gives exactly the fields of some draft, each once and within its range, then what is
  loaded are the defaults with these fields in place of their own, also inside the slot limits and
  the sweep settings, or what is wrong with them.  The order of the fields does not matter, nor do
  other fields, whatever they hold.
* If the value gives any of its known fields twice, or as something that the field cannot be, such
  as null, then it is refused, whatever the other fields are.  This holds of the fields inside the
  slot limits and the sweep settings as well.

A record may also be given as an array of its first fields, which is not at fault as such.  By
`exists_givenBy` there is no third case.

**Proof sketch.** The text is read as the value that it writes.  Of each record in it, the reader
keeps what is under the known names and refuses a name that is there twice; so it finds for every
field what the record gives to it.  Its own defaults of the fields are those of the settings. -/
theorem load_partial (hread : files.read path = .ok text.toUTF8)
    (htext : Json.Writes text.toList (.value v)) :
    (∀ d : Draft, d.GivenBy v →
      ((d.applyTo {}).validate = .ok () → load files path = .ok (d.applyTo {})) ∧
      ∀ e, (d.applyTo {}).validate = .error e →
        load files path = .error e ∧ ∃ problem, e = .invalidSettings problem) ∧
    (FaultyRecord faults v → load files path = .error .json) := by
  have hload := load_of_writes hread htext
  have hv : v.Written := ⟨text.toList, htext⟩
  constructor
  · intro d hd
    rw [ofJson?_of_givenBy hv hd] at hload
    refine ⟨fun hvalid => ?_, fun e he => ⟨?_, exists_of_validate he⟩⟩
    · rw [hload]
      simp only [hvalid]
      rfl
    · rw [hload]
      simp only [he]
      rfl
  · intro hfaulty
    rw [hload, ofJson?_of_faulty hv hfaulty]

/-- One file gives the port and one of the slot limits, between fields that are not known; one gives
slot limits that do not fit together, as an array; and one gives null as the port. -/
theorem load_partial_three_files :
    let given := "\x7b\n  \"x\": [\n    null\n  ],\n  \"limits\": \x7b\n    \"y\": -1,\n" ++
      "    \"owner_slots\": 5\n  \x7d,\n  \"port\": 9000\n\x7d"
    let invalid := "\x7b\n  \"limits\": [\n    3,\n    4\n  ]\n\x7d"
    let faulty := "\x7b\n  \"bind\": \"::\",\n  \"port\": null\n\x7d"
    let files := ((({} : FileTree).insert ["a"] (.file given.toUTF8)).insert ["b"]
      (.file invalid.toUTF8)).insert ["c"] (.file faulty.toUTF8)
    load files "a" = .ok { port := 9000, limits := { ownerSlots := 5 } } ∧
      load files "b" = .error (.invalidSettings .ownerSlotsExceedGlobal) ∧
      load files "c" = .error .json := by
  intro given invalid faulty files
  have hgiven : Json.Writes given.toList (.value (.record [("x", .array [.null]),
      ("limits", .record [("y", .int (-1)), ("owner_slots", .nat 5)]), ("port", .nat 9000)])) := by
    rw [show given = Json.indented (.record [("x", .array [.null]),
      ("limits", .record [("y", .int (-1)), ("owner_slots", .nat 5)]), ("port", .nat 9000)]) by
        decide +kernel]
    refine Json.writes_indentedAt (Json.plain_record ?_) 0
    simp [Json.plain_nat, Json.Plain.array, Json.Plain.null, Json.plain_record, Json.Plain.int]
  have hlimits : Limits.Draft.GivenBy { ownerSlots := some 5 }
      (.record [("y", .int (-1)), ("owner_slots", .nat 5)]) :=
    ⟨by simp, by simpa using Gives.absent, by simpa using Gives.present ⟨rfl, by decide⟩⟩
  have hdraft : Draft.GivenBy { port := some 9000, limits := some { ownerSlots := some 5 } }
      (.record [("x", .array [.null]),
        ("limits", .record [("y", .int (-1)), ("owner_slots", .nat 5)]), ("port", .nat 9000)]) := by
    constructor
    case isRecord => simp
    case port => simpa using Gives.present ⟨rfl, by decide⟩
    case limits => simpa using Gives.present hlimits
    all_goals simpa using Gives.absent
  have hinvalid : Json.Writes invalid.toList
      (.value (.record [("limits", .array [.nat 3, .nat 4])])) := by
    rw [show invalid = Json.indented (.record [("limits", .array [.nat 3, .nat 4])]) by
      decide +kernel]
    refine Json.writes_indentedAt (Json.plain_record ?_) 0
    simp [Json.plain_nat, Json.Plain.array]
  have hinvalidDraft :
      Draft.GivenBy { limits := some { globalSlots := some 3, ownerSlots := some 4 } }
        (.record [("limits", .array [.nat 3, .nat 4])]) := by
    constructor
    case isRecord => simp
    case limits =>
      refine .present ⟨Nat.le_refl 2, ?_, ?_⟩
      · simpa [Json.valuesOf, Json.namedParts, Limits.fieldNames] using
          Gives.present ⟨rfl, by decide⟩
      · simpa [Json.valuesOf, Json.namedParts, Limits.fieldNames] using
          Gives.present ⟨rfl, by decide⟩
    all_goals simpa using Gives.absent
  have hfaulty : Json.Writes faulty.toList
      (.value (.record [("bind", .text "::"), ("port", .null)])) := by
    rw [show faulty = Json.indented (.record [("bind", .text "::"), ("port", .null)]) by
      decide +kernel]
    refine Json.writes_indentedAt (Json.plain_record ?_) 0
    simp [Json.Plain.text, Json.Plain.null]
  have hport : FaultyRecord faults (.record [("bind", .text "::"), ("port", .null)]) :=
    .unsuitable (show ("port", NotA (IsNat 65535)) ∈ faults by simp [faults])
      (u := .null) (by simp) (fun n hn => by cases hn.1)
  exact ⟨((load_partial (show files.read "a" = _ by decide +kernel) hgiven).1 _ hdraft).1 rfl,
    (((load_partial (show files.read "b" = _ by decide +kernel) hinvalid).1 _ hinvalidDraft).2 _
      rfl).1,
    (load_partial (show files.read "c" = _ by decide +kernel) hfaulty).2 hport⟩

end Settings

end InFlight
