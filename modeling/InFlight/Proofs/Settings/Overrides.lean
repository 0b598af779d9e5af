import InFlight.CommandLine.Station
import InFlight.Proofs.Json.Fields
import InFlight.Proofs.Text.Decimal
import InFlight.Proofs.Text.Parts

/-!
# Which settings a run has

Settings come from the settings file, then from four variables of the environment, then from the
options.  The variables are taken one after the other, and the first that cannot be read stops
there.  None of this touches what has to fit together, so settings that fit together in the file
still do in the end.

## Main definitions

* `InFlight.Environment.Says` — what a variable says.
* `InFlight.Settings.IsPort` — a text writes a port.
* `InFlight.Settings.Overrides` — what the variables make of settings, and what stops them.
* `InFlight.Settings.FileGives` — the address and the port that a settings file gives.

## Main results

* `InFlight.Environment.lookup?_eq_iff` — a variable is looked up as what it says.
* `InFlight.Settings.overrides_override` — settings are overridden as the variables say.
* `InFlight.CommandLine.settingsFor_layers` — the address and the port of a run, by precedence.
-/

set_option relaxedAutoImplicit false
set_option autoImplicit false

namespace InFlight

/-! ## The environment -/

namespace Environment

/-- What a variable says: the core of its text, unless it is not set, has no text, or is blank. -/
inductive Says (env : Environment) (name : String) : Option String → Prop where
  | unset (h : env.lookup name = none) : Says env name none
  | noText {bytes : ByteArray} (h : env.lookup name = some bytes)
    (hnone : ∀ text : String, text.toUTF8 ≠ bytes) : Says env name none
  | blank {text : String} (h : env.lookup name = some text.toUTF8)
    (hblank : ∀ c ∈ text.toList, Text.isBlank c = true) : Says env name none
  | value {text : String} {core : List Char} (h : env.lookup name = some text.toUTF8)
    (hcore : Text.Trims text.toList core) (hne : core ≠ []) :
    Says env name (some (String.ofList core))

variable {env : Environment} {name : String} {v : Option String}

/-- The text of a variable without the blanks around it, unless nothing is left. -/
lemma lookup?_of_text {text : String} (h : env.lookup name = some text.toUTF8) :
    env.lookup? name = if Text.trimList text.toList = [] then none else some (Text.trim text) := by
  rw [lookup?, h, Option.bind_some, Utf8.decode?_toUTF8, Option.map_some, Text.trim]
  split_ifs with hnil
  · rw [hnil]
    rfl
  · simp [Option.filter, hnil]

/-- A variable says what is looked up. -/
lemma says_lookup? (env : Environment) (name : String) : env.Says name (env.lookup? name) := by
  cases hlookup : env.lookup name with
  | none =>
    rw [lookup?, hlookup]
    exact .unset hlookup
  | some bytes =>
    cases hdecode : Utf8.decode? bytes with
    | none =>
      rw [lookup?, hlookup, Option.bind_some, hdecode]
      refine .noText hlookup fun text htext => ?_
      rw [Utf8.decode?_eq_some_iff.2 htext] at hdecode
      cases hdecode
    | some text =>
      rw [← Utf8.decode?_eq_some_iff.1 hdecode] at hlookup
      rw [lookup?_of_text hlookup]
      split_ifs with hnil
      · exact .blank hlookup (Text.trimList_eq_nil_iff.1 hnil)
      · exact .value hlookup (Text.trims_trimList text.toList) hnil

/-- **A variable is looked up as what it says**, which is one thing only. -/
theorem lookup?_eq_iff : env.lookup? name = v ↔ env.Says name v := by
  constructor
  · rintro rfl
    exact says_lookup? env name
  · intro h
    cases h with
    | unset h =>
      rw [lookup?, h]
      rfl
    | @noText bytes h hnone =>
      have hdecode : Utf8.decode? bytes = none :=
        Option.eq_none_iff_forall_ne_some.2 fun text h => hnone text (Utf8.decode?_eq_some_iff.1 h)
      rw [lookup?, h, Option.bind_some, hdecode]
      rfl
    | blank h hblank => rw [lookup?_of_text h, if_pos (Text.trimList_eq_nil_iff.2 hblank)]
    | value h hcore hne =>
      obtain rfl := Text.trims_iff.1 hcore
      rw [lookup?_of_text h, if_neg hne, Text.trim]

end Environment

/-! ## Overrides -/

namespace Settings

/-- A text writes a port. -/
def IsPort (text : String) (port : Nat) : Prop :=
  Decimal.Writes text.toList port ∧ text.toList.head? ≠ some '-' ∧ port ≤ maxPort

/-- A text is read as a list of account numbers. -/
def IsIdList (text : String) (ids : List OwnerId) : Prop := idList text = .ok ids

/-- What four variables make of settings, and what stops them: the first two that are taken are the
address and the port, the last two the history and the administrators.  What cannot be read stops
those behind it. -/
inductive Overrides (lookup : String → Option String) (s : Settings) :
    Settings × Option Error → Prop where
  | read {port : Option Nat} {ids : Option (List OwnerId)}
    (hport : Option.Rel IsPort (lookup "SLOTWATCH_PORT") port)
    (hids : Option.Rel IsIdList (lookup "SLOTWATCH_ADMIN_IDS") ids) :
    Overrides lookup s
      ({ s with
        bind := (lookup "SLOTWATCH_BIND").getD s.bind
        port := port.getD s.port
        historyDb := (lookup "SLOTWATCH_HISTORY_DB").getD s.historyDb
        adminIds := ids.getD s.adminIds }, none)
  | noPort {text : String} (htext : lookup "SLOTWATCH_PORT" = some text)
    (hnone : ∀ port, ¬ IsPort text port) :
    Overrides lookup s
      ({ s with bind := (lookup "SLOTWATCH_BIND").getD s.bind },
        some (.invalidSettings (.notAPort text)))
  | noIdList {port : Option Nat} {text : String} {e : Error}
    (hport : Option.Rel IsPort (lookup "SLOTWATCH_PORT") port)
    (htext : lookup "SLOTWATCH_ADMIN_IDS" = some text) (herror : idList text = .error e) :
    Overrides lookup s
      ({ s with
        bind := (lookup "SLOTWATCH_BIND").getD s.bind
        port := port.getD s.port
        historyDb := (lookup "SLOTWATCH_HISTORY_DB").getD s.historyDb }, some e)

variable {lookup : String → Option String} {s s' : Settings}

/-- A text is read as the port that it writes. -/
lemma natural?_maxPort_eq_some_iff {text : String} {port : Nat} :
    Decimal.natural? maxPort text = some port ↔ IsPort text port :=
  Decimal.natural?_eq_some_iff

/-- The address is overridden if the environment has one. -/
lemma overrideBind_eq (lookup : String → Option String) (s : Settings) :
    overrideBind lookup s = { s with bind := (lookup "SLOTWATCH_BIND").getD s.bind } := by
  unfold overrideBind
  cases lookup "SLOTWATCH_BIND" <;> rfl

/-- The place of the history is overridden if the environment has one. -/
lemma overrideHistory_eq (lookup : String → Option String) (s : Settings) :
    overrideHistory lookup s =
      { s with historyDb := (lookup "SLOTWATCH_HISTORY_DB").getD s.historyDb } := by
  unfold overrideHistory
  cases lookup "SLOTWATCH_HISTORY_DB" <;> rfl

/-- The port is read or reported. -/
lemma overridePort_cases (lookup : String → Option String) (s : Settings) :
    (∃ port, Option.Rel IsPort (lookup "SLOTWATCH_PORT") port ∧
      overridePort lookup s = .ok { s with port := port.getD s.port }) ∨
    ∃ text, lookup "SLOTWATCH_PORT" = some text ∧ (∀ port, ¬ IsPort text port) ∧
      overridePort lookup s = .error (.invalidSettings (.notAPort text)) := by
  unfold overridePort
  cases lookup "SLOTWATCH_PORT" with
  | none => exact .inl ⟨none, .none, rfl⟩
  | some text =>
    simp only
    cases hread : Decimal.natural? maxPort text with
    | none =>
      refine .inr ⟨text, rfl, fun port hport => ?_, rfl⟩
      rw [natural?_maxPort_eq_some_iff.2 hport] at hread
      cases hread
    | some port => exact .inl ⟨some port, .some (natural?_maxPort_eq_some_iff.1 hread), rfl⟩

/-- The list of administrators is read or reported. -/
lemma overrideAdmins_cases (lookup : String → Option String) (s : Settings) :
    (∃ ids, Option.Rel IsIdList (lookup "SLOTWATCH_ADMIN_IDS") ids ∧
      overrideAdmins lookup s = .ok { s with adminIds := ids.getD s.adminIds }) ∨
    ∃ text e, lookup "SLOTWATCH_ADMIN_IDS" = some text ∧ idList text = .error e ∧
      overrideAdmins lookup s = .error e := by
  unfold overrideAdmins
  cases lookup "SLOTWATCH_ADMIN_IDS" with
  | none => exact .inl ⟨none, .none, rfl⟩
  | some text =>
    simp only
    cases hids : idList text with
    | error e => exact .inr ⟨text, e, rfl, hids, rfl⟩
    | ok ids => exact .inl ⟨some ids, .some hids, rfl⟩

/-- **Settings are overridden as the variables say.** -/
theorem overrides_override (lookup : String → Option String) (s : Settings) :
    Overrides lookup s (override lookup s) := by
  unfold override
  rw [overrideBind_eq]
  obtain ⟨port, hport, hread⟩ | ⟨text, htext, hnone, hread⟩ :=
    overridePort_cases lookup { s with bind := (lookup "SLOTWATCH_BIND").getD s.bind }
  · simp only [hread, overrideHistory_eq]
    obtain ⟨ids, hids, hread⟩ | ⟨text, e, htext, herror, hread⟩ := overrideAdmins_cases lookup
      { s with
        bind := (lookup "SLOTWATCH_BIND").getD s.bind
        port := port.getD s.port
        historyDb := (lookup "SLOTWATCH_HISTORY_DB").getD s.historyDb }
    · simp only [hread]
      exact .read hport hids
    · simp only [hread]
      exact .noIdList hport htext herror
  · simp only [hread]
    exact .noPort htext hnone

/-- The variables change nothing that has to fit together. -/
lemma Overrides.kept {r : Settings × Option Error} (h : Overrides lookup s r) :
    r.1.limits = s.limits ∧ r.1.scanner = s.scanner ∧ r.1.logFilter = s.logFilter ∧
      r.1.validate = s.validate := by
  cases h <;> exact ⟨rfl, rfl, rfl, rfl⟩

/-- A text that goes with a value can be read. -/
lemma exists_of_rel {α : Type} {reads : String → α → Prop} {v : Option String} {a : Option α}
    (h : Option.Rel reads v a) : ∀ text ∈ v, ∃ a, reads text a := by
  intro text htext
  cases h with
  | none => cases htext
  | some h => exact ⟨_, Option.some.inj htext ▸ h⟩

/-- Nothing stops the variables if the port and the list of administrators can be read, as far as
they are given. -/
lemma Overrides.eq_none_iff {r : Settings × Option Error} (h : Overrides lookup s r) :
    r.2 = none ↔ (∀ text ∈ lookup "SLOTWATCH_PORT", ∃ port, IsPort text port) ∧
      ∀ text ∈ lookup "SLOTWATCH_ADMIN_IDS", ∃ ids, IsIdList text ids := by
  cases h with
  | read hport hids => exact ⟨fun _ => ⟨exists_of_rel hport, exists_of_rel hids⟩, fun _ => rfl⟩
  | @noPort text htext hnone =>
    simp only [reduceCtorEq, false_iff, not_and]
    intro hport
    obtain ⟨port, hport⟩ := hport text htext
    exact absurd hport (hnone port)
  | @noIdList port text e hport htext herror =>
    simp only [reduceCtorEq, false_iff, not_and, not_forall]
    intro _
    refine ⟨text, htext, ?_⟩
    rintro ⟨ids, hids⟩
    rw [IsIdList, herror] at hids
    cases hids

/-! ## The file -/

/-- The address and the port that a settings file gives: neither if it is missing, otherwise those
in the record that its text writes. -/
inductive FileGives (files : FileTree) (path : String) : Option String → Option Nat → Prop where
  | missing (h : files.read path = .error .notFound) : FileGives files path none none
  | record {text : String} {v : Json} {bind : Option String} {port : Option Nat}
    (hread : files.read path = .ok text.toUTF8) (hparse : Json.parse? text = some v)
    (hbind : Json.Gives (fun bind u => u.text? = some bind) (v.valuesOf fieldNames "bind") bind)
    (hport : Json.Gives (fun port u => u.nat? maxPort = some port)
      (v.valuesOf fieldNames "port") port) : FileGives files path bind port

/-- A field that is read is what is given to it, or its default. -/
lemma gives_of_optional? {α : Type} {fs : Json.Fields} {name : String} {default a : α}
    {read : Json → Option α} (h : fs.optional? name default read = some a) :
    ∃ d : Option α, Json.Gives (fun a u => read u = some a) (fs.lookup name).toList d ∧
      a = d.getD default := by
  unfold Json.Fields.optional? at h
  cases hlookup : fs.lookup name with
  | none =>
    rw [hlookup] at h
    exact ⟨none, .absent, (Option.some.inj h).symm⟩
  | some u =>
    rw [hlookup] at h
    exact ⟨some a, .present h, rfl⟩

/-- Settings that are read from a value have the address and the port that it gives. -/
lemma gives_of_ofJson? {v : Json} (h : ofJson? v = some s) :
    ∃ bind port,
      Json.Gives (fun bind u => u.text? = some bind) (v.valuesOf fieldNames "bind") bind ∧
      Json.Gives (fun port u => u.nat? maxPort = some port) (v.valuesOf fieldNames "port") port ∧
      s.bind = bind.getD defaultBind ∧ s.port = port.getD defaultPort := by
  simp only [ofJson?, Option.bind_eq_bind, Option.bind_eq_some_iff] at h
  obtain ⟨fs, hfs, bind, hbind, port, hport, historyDb, -, adminIds, -, logFilter, -, limits, -,
    scanner, -, hs⟩ := h
  obtain rfl := Option.some.inj hs
  have hlookup : ∀ name ∈ fieldNames, (fs.lookup name).toList = v.valuesOf fieldNames name :=
    fun name => Json.lookup_of_fields? (by decide) hfs
  obtain ⟨givenBind, hgivenBind, rfl⟩ := gives_of_optional? hbind
  obtain ⟨givenPort, hgivenPort, rfl⟩ := gives_of_optional? hport
  rw [hlookup "bind" (by decide)] at hgivenBind
  rw [hlookup "port" (by decide)] at hgivenPort
  exact ⟨givenBind, givenPort, hgivenBind, hgivenPort, rfl, rfl⟩

/-- Settings that are loaded have the address and the port of the file, and fit together. -/
lemma gives_of_load {files : FileTree} {path : String} (h : load files path = .ok s) :
    s.validate = .ok () ∧ ∃ bind port, FileGives files path bind port ∧
      s.bind = bind.getD defaultBind ∧ s.port = port.getD defaultPort := by
  unfold load at h
  split at h
  · next hread =>
    cases h
    exact ⟨rfl, none, none, .missing hread, rfl, rfl⟩
  · cases h
  · next bytes hread =>
    split at h
    · cases h
    · next text hdecode =>
      rw [← Utf8.decode?_eq_some_iff.1 hdecode] at hread
      unfold parse at h
      cases hgiven : (Json.parse? text).bind ofJson? with
      | none =>
        rw [hgiven] at h
        cases h
      | some given =>
        rw [hgiven] at h
        obtain ⟨v, hparse, hjson⟩ := Option.bind_eq_some_iff.1 hgiven
        obtain ⟨bind, port, hbind, hport, hdata⟩ := gives_of_ofJson? hjson
        cases hvalid : given.validate with
        | error e => simp [hvalid, Except.map] at h
        | ok u =>
          obtain rfl : given = s := by simpa [hvalid, Except.map] using h
          exact ⟨hvalid, bind, port, .record hread hparse hbind hport, hdata⟩

end Settings

/-! ## A run -/

namespace CommandLine

open Settings (Overrides IsPort IsIdList FileGives)

/-- The address and the port of settings are those of the options; where there are none, those of
the environment; where it says none, those of the file; and where it gives none, the defaults. -/
def Layered (w : World) (o : ServeOptions) (s : Settings) : Prop :=
  ∃ (envBind portText fileBind : Option String) (envPort filePort : Option Nat),
    w.environment.Says "SLOTWATCH_BIND" envBind ∧ w.environment.Says "SLOTWATCH_PORT" portText ∧
    Option.Rel IsPort portText envPort ∧ FileGives w.files o.settingsFile fileBind filePort ∧
    s.bind = ((o.bind.or envBind).or fileBind).getD Settings.defaultBind ∧
    s.port = ((o.port.or envPort).or filePort).getD Settings.defaultPort

variable {w : World} {o : ServeOptions} {s s' : Settings}

/-- Options change nothing that has to fit together. -/
lemma validate_override (o : ServeOptions) (s : Settings) :
    (o.override s).validate = s.validate := rfl

/-- Settings that are loaded and overridden fit together in the end. -/
lemma settingsFor_eq (hload : Settings.load w.files o.settingsFile = .ok s)
    (hread : s.override w.environment.lookup? = (s', none)) :
    (o.override s').validate = .ok () ∧ settingsFor w o = .ok (o.override s') := by
  obtain ⟨hvalid, -⟩ := Settings.gives_of_load hload
  obtain ⟨-, -, -, hkept⟩ := (Settings.overrides_override w.environment.lookup? s).kept
  rw [hread] at hkept
  have hend : (o.override s').validate = .ok () := by
    rw [validate_override, hkept, hvalid]
  refine ⟨hend, ?_⟩
  simp only [settingsFor, hload, hread, hend]
  rfl

/-- The address and the port of settings that are loaded and overridden. -/
lemma layered_override (hload : Settings.load w.files o.settingsFile = .ok s)
    (hread : s.override w.environment.lookup? = (s', none)) : Layered w o (o.override s') := by
  obtain ⟨-, fileBind, filePort, hfile, hbind, hport⟩ := Settings.gives_of_load hload
  have hoverrides := Settings.overrides_override w.environment.lookup? s
  rw [hread] at hoverrides
  cases hoverrides with
  | @read envPort ids henvPort _ =>
    refine ⟨_, _, fileBind, envPort, filePort, Environment.says_lookup? w.environment _,
      Environment.says_lookup? w.environment _, henvPort, hfile, ?_, ?_⟩
    · simp only [ServeOptions.override, hbind]
      cases o.bind <;> cases w.environment.lookup? "SLOTWATCH_BIND" <;> rfl
    · simp only [ServeOptions.override, hport]
      cases o.port <;> cases envPort <;> rfl

/-- A station has the settings of the run. -/
lemma settings_of_start {files : FileTree} {station : Station}
    (h : start w o = (files, .ok station)) : settingsFor w o = .ok station.settings := by
  unfold start at h
  split at h
  · cases h
  · next s hs =>
    split at h
    · cases h
    · split_ifs at h
      · cases h
        exact hs
      · cases h

/-- What goes wrong with the settings of a run does so in the file or in the environment. -/
lemma error_of_settingsFor {e : Error} (h : settingsFor w o = .error e) :
    Settings.load w.files o.settingsFile = .error e ∨
      ∃ s s', Settings.load w.files o.settingsFile = .ok s ∧
        s.override w.environment.lookup? = (s', some e) := by
  cases hload : Settings.load w.files o.settingsFile with
  | error e' =>
    left
    simpa [settingsFor, hload] using h
  | ok s =>
    right
    obtain ⟨s', _ | e', hread⟩ : ∃ s' e', s.override w.environment.lookup? = (s', e') := ⟨_, _, rfl⟩
    · rw [(settingsFor_eq hload hread).2] at h
      cases h
    · simp only [settingsFor, hload, hread] at h
      cases h
      exact ⟨s, s', rfl, hread⟩

/-- **Precedence of settings.** Whatever is looked up and whatever the settings are, the variables
override them as they say, up to the first that cannot be read: nothing stops them exactly if the
port and the list of administrators can be read as far as they are given.  In every case the
limits, the sweep settings and the log filter are kept, and the settings fit together as before.

So whatever a run finds and whatever its options are, its settings can only be refused while the
file is loaded or the environment is read, and never in the end.  Otherwise the address and the
port are those of the options, else those of the environment, else those of the file, else the
defaults, and a service that is started has these settings. -/
theorem settingsFor_layers :
    (∀ (lookup : String → Option String) (s : Settings),
      Overrides lookup s (s.override lookup) ∧
      ((s.override lookup).2 = none ↔
        (∀ text ∈ lookup "SLOTWATCH_PORT", ∃ port, IsPort text port) ∧
          ∀ text ∈ lookup "SLOTWATCH_ADMIN_IDS", ∃ ids, IsIdList text ids) ∧
      (s.override lookup).1.limits = s.limits ∧ (s.override lookup).1.scanner = s.scanner ∧
      (s.override lookup).1.logFilter = s.logFilter ∧
      (s.override lookup).1.validate = s.validate) ∧
    ∀ (w : World) (o : ServeOptions),
      (∀ e, settingsFor w o = .error e →
        Settings.load w.files o.settingsFile = .error e ∨
          ∃ s s', Settings.load w.files o.settingsFile = .ok s ∧
            s.override w.environment.lookup? = (s', some e)) ∧
      ∀ s s', Settings.load w.files o.settingsFile = .ok s →
        s.override w.environment.lookup? = (s', none) →
          (o.override s').validate = .ok () ∧ settingsFor w o = .ok (o.override s') ∧
          Layered w o (o.override s') ∧
          ∀ files station, start w o = (files, .ok station) →
            station.settings = o.override s' := by
  refine ⟨fun lookup s => ?_, fun w o =>
    ⟨fun e => error_of_settingsFor, fun s s' hload hread => ?_⟩⟩
  · have hoverrides := Settings.overrides_override lookup s
    exact ⟨hoverrides, hoverrides.eq_none_iff, hoverrides.kept⟩
  · obtain ⟨hvalid, hsettings⟩ := settingsFor_eq (o := o) hload hread
    refine ⟨hvalid, hsettings, layered_override hload hread, fun files station hstart => ?_⟩
    have hstation := settings_of_start hstart
    rw [hsettings] at hstation
    exact (Except.ok.inj hstation).symm

/-- A file with an address and a port, an environment in which the address is blank and the port has
blanks around it, and a run without options and one with an address. -/
theorem settingsFor_layers_two_runs :
    let w : World :=
      { files := ({} : FileTree).insert ["slotwatch.json"]
          (.file "\x7b\n  \"bind\": \"0.0.0.0\",\n  \"port\": 9000\n\x7d".toUTF8)
        environment := [("SLOTWATCH_BIND", " ".toUTF8), ("SLOTWATCH_PORT", " +8080\n".toUTF8)] }
    settingsFor w {} = .ok { bind := "0.0.0.0", port := 8080 } ∧
      settingsFor w { bind := some "::1" } = .ok { bind := "::1", port := 8080 } := by
  intro w
  have hload : Settings.load w.files "slotwatch.json" =
      .ok { bind := "0.0.0.0", port := 9000 } := by
    decide +kernel
  have hread : Settings.override w.environment.lookup? { bind := "0.0.0.0", port := 9000 } =
      ({ bind := "0.0.0.0", port := 8080 }, none) := by
    decide +kernel
  exact ⟨((settingsFor_layers.2 w {}).2 _ _ hload hread).2.1,
    ((settingsFor_layers.2 w { bind := some "::1" }).2 _ _ hload hread).2.1⟩

end CommandLine

end InFlight
