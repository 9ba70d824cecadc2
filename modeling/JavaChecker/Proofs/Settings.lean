import JavaChecker.Proofs.Formats
import JavaChecker.Proofs.TomlDocument

/-!
# JavaChecker.Proofs.Settings

A configuration is the default configuration with the settings of a text laid over it.

`Setting` lists what can be set, each in its part of the document. A document that spells its parts
as tables is accepted exactly when every key in it is a part or a setting and every value is one
that its setting permits, and the configuration then has the values given and the defaults of what
is not given (`load_eq_ok_iff`). In particular a setting is read from its own value alone.
-/

namespace JavaChecker

variable {α β : Type}

/-! ### Closed records -/

namespace RecordSpelling

/-- With nothing given, a record has its fields as in the blank record. -/
theorem holds_none_iff {s : RecordSpelling α} {blank v : α}
    (hblank : ∀ f ∈ s.fields, f.default? = some (f.get blank))
    (hext : ∀ {a b : α}, (∀ f ∈ s.fields, f.get a = f.get b) → a = b) :
    (∀ f ∈ s.fields, f.Holds v none) ↔ blank = v := by
  refine ⟨?_, ?_⟩
  · intro h
    exact hext fun f hf => Option.some.inj ((hblank f hf).symm.trans (h f hf))
  · intro h f hf
    exact h ▸ hblank f hf

/-- Other than by position, a closed record is spelled by a table with no keys but its fields. -/
theorem spells_iff_of_closed {s : RecordSpelling α} (hclosed : s.closed = true)
    {dialect : Dialect} {v : α} {d : Document} (hd : d.Distinct)
    (harray : ∀ style items, d ≠ .array style items) :
    s.Spells dialect v d ↔ (∃ entries, d = .table entries) ∧
      (∀ key w, d.get? key = some w → key ∈ s.names) ∧
      ∀ f ∈ s.fields, f.Holds v (d.get? f.name) := by
  refine ⟨?_, ?_⟩
  · intro h
    cases h with
    | table hkeys hknown hgiven =>
        refine ⟨⟨_, rfl⟩, fun key w hw => ?_, hgiven⟩
        exact hknown hclosed (List.mem_map.mpr ⟨_, Document.mem_of_get? hw, rfl⟩)
    | array => exact absurd rfl (harray _ _)
  · intro h
    obtain ⟨⟨entries, rfl⟩, hknown, hgiven⟩ := h
    refine .table hd.keys (fun _ key hkey => ?_) hgiven
    obtain ⟨w, hw⟩ := Option.ne_none_iff_exists'.mp fun hnone =>
      Document.get?_eq_none_iff.mp hnone hkey
    exact hknown key w hw

/-- A closed record as a part of another: if it is left out, so are all its fields. -/
theorem holds_part_iff {s : RecordSpelling β} (hclosed : s.closed = true) {blank : β}
    (hblank : ∀ f ∈ s.fields, f.default? = some (f.get blank))
    (hext : ∀ {a b : β}, (∀ f ∈ s.fields, f.get a = f.get b) → a = b)
    {name : String} {get : α → β} {dialect : Dialect} {v : α} {given : Option Document}
    (hgiven : ∀ p, given = some p → p.Distinct ∧ ∀ style items, p ≠ .array style items) :
    FieldSpelling.Holds ⟨name, get, s.Spells dialect, some blank⟩ v given ↔
      (∀ p, given = some p →
        (∃ entries, p = .table entries) ∧ ∀ key w, p.get? key = some w → key ∈ s.names) ∧
      ∀ f ∈ s.fields, f.Holds (get v) (given.bind (·.get? f.name)) := by
  cases given with
  | none => simp [FieldSpelling.Holds, ← holds_none_iff (v := get v) hblank hext]
  | some p =>
      obtain ⟨hdistinct, harray⟩ := hgiven p rfl
      change s.Spells dialect (get v) p ↔ _
      simp [spells_iff_of_closed hclosed hdistinct harray, and_assoc]

end RecordSpelling

/-! ### Settings -/

/-- What can be set in a configuration. -/
inductive Setting where
  | recursion
  | level
  | json
  | stderr
  | file
  | bufferLines
deriving DecidableEq

namespace Setting

/-- The part that a setting belongs to. -/
def part : Setting → String
  | .recursion => "checker"
  | .level | .json | .stderr | .file | .bufferLines => "logging"

/-- The key of a setting in its part. -/
def key : Setting → String
  | .recursion => "recursion"
  | .level => "level"
  | .json => "json"
  | .stderr => "stderr"
  | .file => "file"
  | .bufferLines => "buffer_lines"

/-- The value that a document gives for a setting, if it gives one. -/
def given? (s : Setting) (d : Document) : Option Document :=
  (d.get? s.part).bind (·.get? s.key)

/-- The values that may be given for a setting. -/
def Permits : Setting → Document → Prop
  | .recursion, d => d = .string "uniform" ∨ d = .string "constructor-args-only"
  | .level, d | .file, d => ∃ text, d = .string text
  | .json, d | .stderr, d => ∃ b, d = .boolean b
  | .bufferLines, d => ∃ n : Nat, d = .integer n

/-- The value of a setting in a configuration, as it is given in documents; `null` for a file that
there is none of. -/
def shown (c : Config) : Setting → Document
  | .recursion => .string c.checker.recursion.word
  | .level => .string c.logging.level
  | .json => .boolean c.logging.json
  | .stderr => .boolean c.logging.stderr
  | .file => .text? c.logging.file
  | .bufferLines => .integer c.logging.bufferLines

/-- A setting as a field of the whole configuration. -/
def field : Setting → FieldSpelling Config
  | .recursion => {
      name := "recursion", get := (·.checker.recursion), spelling := .named .toml Policy.word,
      default? := some .uniform }
  | .level => {
      name := "level", get := (·.logging.level), spelling := .string, default? := some "info" }
  | .json => {
      name := "json", get := (·.logging.json), spelling := .boolean, default? := some false }
  | .stderr => {
      name := "stderr", get := (·.logging.stderr), spelling := .boolean, default? := some true }
  | .file => {
      name := "file", get := (·.logging.file), spelling := .nullable .string,
      default? := some none }
  | .bufferLines => {
      name := "buffer_lines", get := (·.logging.bufferLines),
      spelling := .natural LoggingConfig.countLimit, default? := some 1000 }

theorem part_mem (s : Setting) : s.part ∈ Config.parts := by
  cases s <;> decide

theorem mem_checker_names {key : String} :
    key ∈ (CheckOptions.spelling .toml).names ↔
      ∃ s : Setting, s.part = "checker" ∧ s.key = key := by
  refine ⟨?_, ?_⟩
  · intro h
    obtain rfl := List.mem_singleton.mp h
    exact ⟨.recursion, rfl, rfl⟩
  · intro h
    obtain ⟨s, hpart, hkey⟩ := h
    subst hkey
    cases s <;> revert hpart <;> decide

theorem mem_logging_names {key : String} :
    key ∈ LoggingConfig.spelling.names ↔ ∃ s : Setting, s.part = "logging" ∧ s.key = key := by
  refine ⟨?_, ?_⟩
  · intro h
    simp only [RecordSpelling.names, LoggingConfig.spelling, List.map_cons, List.map_nil,
      List.mem_cons, List.not_mem_nil, or_false] at h
    rcases h with rfl | rfl | rfl | rfl | rfl
    · exact ⟨.level, rfl, rfl⟩
    · exact ⟨.json, rfl, rfl⟩
    · exact ⟨.stderr, rfl, rfl⟩
    · exact ⟨.file, rfl, rfl⟩
    · exact ⟨.bufferLines, rfl, rfl⟩
  · intro h
    obtain ⟨s, hpart, hkey⟩ := h
    subst hkey
    cases s <;> revert hpart <;> decide

theorem permits_word (policy : Policy) : Setting.recursion.Permits (.string policy.word) := by
  cases policy with
  | uniform => exact .inl rfl
  | constructorArgsOnly => exact .inr rfl

/-- A value is given for a setting exactly if it is permitted, and then it is the value shown. -/
theorem spelling_iff (s : Setting) {c : Config} {v : Document} (hbuilt : Toml.WellBuilt v)
    (hword : s = .recursion → ∀ entries, v ≠ .table entries) :
    s.field.spelling (s.field.get c) v ↔ s.Permits v ∧ s.shown c = v := by
  cases s with
  | recursion =>
      refine ⟨?_, ?_⟩
      · intro h
        cases h with
        | word => exact ⟨permits_word _, rfl⟩
        | key => exact absurd rfl (hword rfl _)
      · intro h
        exact h.2 ▸ .word
  | level => exact ⟨fun h => ⟨⟨_, h⟩, h.symm⟩, fun h => h.2.symm⟩
  | json => exact ⟨fun h => ⟨⟨_, h⟩, h.symm⟩, fun h => h.2.symm⟩
  | stderr => exact ⟨fun h => ⟨⟨_, h⟩, h.symm⟩, fun h => h.2.symm⟩
  | file =>
      change Spelling.nullable .string c.logging.file v ↔ _ ∧ Document.text? c.logging.file = v
      cases c.logging.file with
      | some path => exact ⟨fun h => ⟨⟨_, h⟩, h.symm⟩, fun h => h.2.symm⟩
      | none =>
          -- TOML has no `null`, so a file that is given is there.
          refine ⟨?_, ?_⟩
          · intro h
            obtain rfl : v = .null := h
            cases hbuilt with
            | scalar _ hnull => exact absurd hnull id
          · intro h
            exact h.2.symm
  | bufferLines =>
      refine ⟨fun h => ⟨⟨_, h.2⟩, h.2.symm⟩, ?_⟩
      intro h
      refine ⟨?_, h.2.symm⟩
      obtain rfl : Document.integer c.logging.bufferLines = v := h.2
      cases hbuilt with
      | scalar _ hbounds =>
          have hmax : Nat.pow 2 63 < LoggingConfig.countLimit := by decide
          have hlt : c.logging.bufferLines < Nat.pow 2 63 := Int.ofNat_lt.mp hbounds.2
          exact Nat.lt_trans hlt hmax

/-- A setting has its default exactly if it shows what the default configuration shows. -/
theorem default_iff (s : Setting) {c : Config} :
    s.field.default? = some (s.field.get c) ↔ s.shown c = s.shown {} := by
  obtain ⟨⟨policy⟩, ⟨level, json, stderr, file, lines⟩⟩ := c
  cases s with
  | recursion => cases policy <;> simp [field, shown, Policy.word]
  | level => simp [field, shown, eq_comm]
  | json => simp [field, shown, eq_comm]
  | stderr => simp [field, shown, eq_comm]
  | file => cases file <;> simp [field, shown, Document.text?]
  | bufferLines =>
      change some 1000 = some lines ↔ Document.integer lines = .integer (1000 : Nat)
      simp only [Option.some.injEq, Document.integer.injEq]
      omega

/-- What may be given for a setting, and what it then stands for. -/
theorem holds_iff (s : Setting) {c : Config} {given : Option Document}
    (hbuilt : ∀ v, given = some v → Toml.WellBuilt v)
    (hword : s = .recursion → ∀ entries, given ≠ some (.table entries)) :
    s.field.Holds c given ↔
      (∀ v, given = some v → s.Permits v) ∧ s.shown c = given.getD (s.shown {}) := by
  cases given with
  | none =>
      change s.field.default? = some (s.field.get c) ↔ _
      simp [default_iff]
  | some v =>
      change s.field.spelling (s.field.get c) v ↔ _
      have hiff := s.spelling_iff (c := c) (hbuilt v rfl) fun hs entries hv =>
        hword hs entries (congrArg some hv)
      simp [hiff]

/-- There is a configuration for any values that are permitted or those of the default
configuration. -/
theorem exists_shown {value : Setting → Document}
    (h : ∀ s, value s = s.shown {} ∨ s.Permits (value s)) : ∃ c, ∀ s, s.shown c = value s := by
  obtain ⟨policy, hpolicy⟩ : ∃ p : Policy, .string p.word = value .recursion := by
    rcases h .recursion with h | h | h
    · exact ⟨.uniform, h.symm⟩
    · exact ⟨.uniform, h.symm⟩
    · exact ⟨.constructorArgsOnly, h.symm⟩
  obtain ⟨level, hlevel⟩ : ∃ text, .string text = value .level := by
    rcases h .level with h | ⟨text, h⟩
    · exact ⟨_, h.symm⟩
    · exact ⟨text, h.symm⟩
  obtain ⟨json, hjson⟩ : ∃ b, .boolean b = value .json := by
    rcases h .json with h | ⟨b, h⟩
    · exact ⟨_, h.symm⟩
    · exact ⟨b, h.symm⟩
  obtain ⟨stderr, hstderr⟩ : ∃ b, .boolean b = value .stderr := by
    rcases h .stderr with h | ⟨b, h⟩
    · exact ⟨_, h.symm⟩
    · exact ⟨b, h.symm⟩
  obtain ⟨file, hfile⟩ : ∃ f, .text? f = value .file := by
    rcases h .file with h | ⟨path, h⟩
    · exact ⟨none, h.symm⟩
    · exact ⟨some path, h.symm⟩
  obtain ⟨lines, hlines⟩ : ∃ n : Nat, .integer n = value .bufferLines := by
    rcases h .bufferLines with h | ⟨n, h⟩
    · exact ⟨_, h.symm⟩
    · exact ⟨n, h.symm⟩
  refine ⟨{ checker := ⟨policy⟩, logging := ⟨level, json, stderr, file, lines⟩ }, fun s => ?_⟩
  cases s with
  | recursion => exact hpolicy
  | level => exact hlevel
  | json => exact hjson
  | stderr => exact hstderr
  | file => exact hfile
  | bufferLines => exact hlines

end Setting

/-! ### Documents of settings -/

namespace Config

/-- Parts are not given by position, and the policy of a check is not given as a table. -/
structure Sectioned (d : Document) : Prop where
  part : ∀ {name : String} {p : Document}, name ∈ parts → d.get? name = some p →
    ∀ style items, p ≠ .array style items
  recursion : ∀ entries, Setting.recursion.given? d ≠ some (.table entries)

/-- The document has nothing but settings in it, each in its part. -/
structure Arranged (d : Document) : Prop where
  part : ∀ {name : String} {p : Document}, d.get? name = some p →
    name ∈ parts ∧ ∃ entries, p = .table entries
  setting : ∀ {name key : String} {p v : Document}, d.get? name = some p → p.get? key = some v →
    ∃ s : Setting, s.part = name ∧ s.key = key

/-- The document has nothing but settings in it, with values that they permit. -/
structure WellTyped (d : Document) : Prop extends Arranged d where
  value : ∀ {s : Setting} {v : Document}, s.given? d = some v → s.Permits v

/-- The part of the document gives that part of the configuration. -/
def PartHolds (c : Config) (d : Document) (name : String) : Prop :=
  (∀ p, d.get? name = some p → (∃ entries, p = .table entries) ∧
    ∀ key v, p.get? key = some v → ∃ s : Setting, s.part = name ∧ s.key = key) ∧
  ∀ s : Setting, s.part = name → s.field.Holds c (s.given? d)

theorem partHolds_checker {c : Config} {d : Document}
    (hd : ∀ p, d.get? "checker" = some p → p.Distinct ∧ ∀ style items, p ≠ .array style items) :
    FieldSpelling.Holds ⟨"checker", checker, (CheckOptions.spelling .toml).Spells .toml, some {}⟩ c
      (d.get? "checker") ↔ PartHolds c d "checker" := by
  rw [RecordSpelling.holds_part_iff rfl (by simp [CheckOptions.spelling])
    (CheckOptions.follows .toml).ext hd]
  simp only [Setting.mem_checker_names]
  refine and_congr_right fun _ => ⟨?_, ?_⟩
  · intro h s hs
    cases s with
    | recursion => exact h _ (List.mem_cons_self ..)
    | _ => exact absurd hs (by decide)
  · intro h f hf
    obtain rfl := List.mem_singleton.mp hf
    exact h .recursion rfl

theorem partHolds_logging {c : Config} {d : Document}
    (hd : ∀ p, d.get? "logging" = some p → p.Distinct ∧ ∀ style items, p ≠ .array style items) :
    FieldSpelling.Holds ⟨"logging", logging, LoggingConfig.spelling.Spells .toml, some {}⟩ c
      (d.get? "logging") ↔ PartHolds c d "logging" := by
  rw [RecordSpelling.holds_part_iff rfl (by simp [LoggingConfig.spelling])
    LoggingConfig.follows.ext hd]
  simp only [Setting.mem_logging_names]
  refine and_congr_right fun _ => ⟨?_, ?_⟩
  · intro h s hs
    simp only [LoggingConfig.spelling, List.forall_mem_cons] at h
    obtain ⟨hlevel, hjson, hstderr, hfile, hlines, _⟩ := h
    cases s with
    | recursion => exact absurd hs (by decide)
    | level => exact hlevel
    | json => exact hjson
    | stderr => exact hstderr
    | file => exact hfile
    | bufferLines => exact hlines
  · intro h f hf
    simp only [LoggingConfig.spelling, List.mem_cons, List.not_mem_nil, or_false] at hf
    rcases hf with rfl | rfl | rfl | rfl | rfl
    · exact h .level rfl
    · exact h .json rfl
    · exact h .stderr rfl
    · exact h .file rfl
    · exact h .bufferLines rfl

theorem spells_iff {c : Config} {d : Document} (hd : Toml.WellBuilt d)
    (htable : ∃ entries, d = .table entries) (hs : Sectioned d) :
    (spelling .toml).Spells .toml c d ↔
      Arranged d ∧ ∀ s : Setting, s.field.Holds c (s.given? d) := by
  have hpart : ∀ {name : String}, name ∈ parts → ∀ p, d.get? name = some p →
      p.Distinct ∧ ∀ style items, p ≠ .array style items := by
    intro name hname p hp
    exact ⟨(hd.of_get? hp).distinct, hs.part hname hp⟩
  have harray : ∀ style items, d ≠ .array style items := by
    obtain ⟨entries, rfl⟩ := htable
    exact fun _ _ h => nomatch h
  rw [RecordSpelling.spells_iff_of_closed rfl hd.distinct harray]
  refine ⟨?_, ?_⟩
  · intro h
    obtain ⟨_, hnames, hfields⟩ := h
    have hholds : ∀ name ∈ parts, PartHolds c d name := by
      intro name hname
      simp only [parts, List.mem_cons, List.not_mem_nil, or_false] at hname
      rcases hname with rfl | rfl
      · exact (partHolds_checker (hpart (by decide))).mp (hfields _ (List.mem_cons_self ..))
      · exact (partHolds_logging (hpart (by decide))).mp
          (hfields _ (List.mem_cons_of_mem _ (List.mem_cons_self ..)))
    refine ⟨⟨?_, ?_⟩, fun s => (hholds _ s.part_mem).2 s rfl⟩
    · intro name p hp
      have hname : name ∈ parts := hnames name p hp
      exact ⟨hname, ((hholds name hname).1 p hp).1⟩
    · intro name key p v hp hv
      exact ((hholds name (hnames name p hp)).1 p hp).2 key v hv
  · intro h
    obtain ⟨harranged, hall⟩ := h
    have hholds : ∀ name, PartHolds c d name := fun name =>
      ⟨fun p hp => ⟨(harranged.part hp).2, fun key v hv => harranged.setting hp hv⟩,
        fun s _ => hall s⟩
    refine ⟨htable, fun name p hp => (harranged.part hp).1, fun f hf => ?_⟩
    simp only [spelling, List.mem_cons, List.not_mem_nil, or_false] at hf
    rcases hf with rfl | rfl
    · exact (partHolds_checker (hpart (by decide))).mpr (hholds _)
    · exact (partHolds_logging (hpart (by decide))).mpr (hholds _)

/-- **A configuration is the default one with the settings of the document laid over it**, and there
is one exactly if the document has nothing but settings in it, with values that they permit. -/
theorem load_eq_ok_iff {text : String} {d : Document} (hparse : Toml.parse? text = some d)
    (hs : Sectioned d) {c : Config} :
    (load text).value = .ok c ↔
      WellTyped d ∧ ∀ s : Setting, s.shown c = (s.given? d).getD (s.shown {}) := by
  obtain ⟨hd, htable⟩ := Toml.parse?_wellBuilt hparse
  have hholds : ∀ s : Setting, s.field.Holds c (s.given? d) ↔
      (∀ v, s.given? d = some v → s.Permits v) ∧
        s.shown c = (s.given? d).getD (s.shown {}) := by
    intro s
    refine s.holds_iff ?_ ?_
    · intro v hv
      obtain ⟨p, hp, hv⟩ := Option.bind_eq_some_iff.mp hv
      exact (hd.of_get? hp).of_get? hv
    · intro hrec
      exact hrec ▸ hs.recursion
  rw [value_load_eq_ok_iff hparse, (reads .toml).decode_eq_ok_iff hd.distinct,
    spells_iff hd htable hs]
  refine ⟨?_, ?_⟩
  · intro h
    obtain ⟨harranged, hall⟩ := h
    exact ⟨⟨harranged, fun {s v} hv => ((hholds s).mp (hall s)).1 v hv⟩,
      fun s => ((hholds s).mp (hall s)).2⟩
  · intro h
    obtain ⟨htyped, hshown⟩ := h
    exact ⟨htyped.toArranged, fun s => (hholds s).mpr ⟨fun v hv => htyped.value hv, hshown s⟩⟩

theorem exists_load_iff {text : String} {d : Document} (hparse : Toml.parse? text = some d)
    (hs : Sectioned d) : (∃ c, (load text).value = .ok c) ↔ WellTyped d := by
  refine ⟨?_, ?_⟩
  · intro h
    obtain ⟨c, hc⟩ := h
    exact ((load_eq_ok_iff hparse hs).mp hc).1
  · intro htyped
    have hvalue : ∀ s : Setting, (s.given? d).getD (s.shown {}) = s.shown {} ∨
        s.Permits ((s.given? d).getD (s.shown {})) := by
      intro s
      cases hv : s.given? d with
      | none => exact .inl rfl
      | some v => exact .inr (htyped.value hv)
    obtain ⟨c, hc⟩ := Setting.exists_shown hvalue
    exact ⟨c, (load_eq_ok_iff hparse hs).mpr ⟨htyped, hc⟩⟩

theorem invalid_of_not_ok {text : String} {d : Document} (hparse : Toml.parse? text = some d)
    (h : ¬ ∃ c, (load text).value = .ok c) : ∃ p, (load text).value = .error (.invalid p) := by
  cases hdecode : decode .toml d with
  | ok c => exact absurd ⟨c, (value_load_eq_ok_iff hparse).mpr hdecode⟩ h
  | error p => exact ⟨p, by simp [load, ofText, hparse, hdecode, Except.mapError]⟩

/-- **Loading lays the settings of a text over the default configuration.** A document that has its
parts as tables is accepted exactly if it has nothing but settings in it, with values that they
permit; any other is invalid. Each setting then has the value given for it, or its default, so that
the order of keys does not matter and no setting depends on another. -/
theorem load_lays_settings_over_defaults {text : String} {d : Document}
    (hparse : Toml.parse? text = some d) (hs : Sectioned d) :
    ((∃ c, (load text).value = .ok c) ↔ WellTyped d) ∧
    (∀ c, (load text).value = .ok c ↔
      WellTyped d ∧ ∀ s : Setting, s.shown c = (s.given? d).getD (s.shown {})) ∧
    (¬ WellTyped d → ∃ p, (load text).value = .error (.invalid p)) ∧
    (∀ text' d' c, Toml.parse? text' = some d' → d.Alike d' →
      ((load text).value = .ok c ↔ (load text').value = .ok c)) ∧
    (∀ text' d' c c', Toml.parse? text' = some d' → Sectioned d' →
      (load text).value = .ok c → (load text').value = .ok c' →
      ∀ s : Setting, s.given? d = s.given? d' → s.shown c = s.shown c') := by
  have hexists := exists_load_iff hparse hs
  refine ⟨hexists, fun c => load_eq_ok_iff hparse hs, ?_, ?_, ?_⟩
  · intro hbad
    exact invalid_of_not_ok hparse fun hok => hbad (hexists.mp hok)
  · intro text' d' c hparse' halike
    have hd : d.Distinct := (Toml.parse?_wellBuilt hparse).1.distinct
    rw [value_load_eq_ok_iff hparse, value_load_eq_ok_iff hparse']
    exact decode_eq_ok_iff_of_alike hd halike
  · intro text' d' c c' hparse' hs' hc hc' s hsame
    rw [((load_eq_ok_iff hparse hs).mp hc).2 s, ((load_eq_ok_iff hparse' hs').mp hc').2 s, hsame]

/-- A text with a policy under a dotted key and a part under a header. -/
def sampleText : String :=
  "checker.recursion = 'constructor-args-only'\n[logging]\njson = true\n"

/-- The document of the text. -/
def sample : Document := .table [
  ("checker", .table [("recursion", .string "constructor-args-only")]),
  ("logging", .table [("json", .boolean true)])]

/-- Whether a document is the one of the text. -/
def isSample : Document → Bool
  | .table [("checker", .table [("recursion", .string "constructor-args-only")]),
      ("logging", .table [("json", .boolean true)])] => true
  | _ => false

theorem eq_sample_of_isSample {d : Document} (h : isSample d = true) : d = sample := by
  unfold isSample at h
  split at h
  · rfl
  · cases h

theorem parse?_sampleText : Toml.parse? sampleText = some sample := by
  -- Equality of documents is not decidable, but whether the reader gives this one is.
  have hread : (Toml.parse? sampleText).any isSample = true := by decide +kernel
  obtain ⟨d, hd, hsample⟩ := (Option.any_eq_true ..).mp hread
  rw [hd, eq_sample_of_isSample hsample]

theorem sample_sectioned : Sectioned sample where
  part := by
    intro name p _ hp style items harray
    have hmem := Document.mem_of_get? hp
    subst harray
    simp at hmem
  recursion := fun _ h => nomatch h

theorem sample_wellTyped : WellTyped sample where
  part := by
    intro name p hp
    have hmem := Document.mem_of_get? hp
    simp only [List.mem_cons, Prod.mk.injEq, List.not_mem_nil, or_false] at hmem
    rcases hmem with ⟨rfl, rfl⟩ | ⟨rfl, rfl⟩
    · exact ⟨by decide, _, rfl⟩
    · exact ⟨by decide, _, rfl⟩
  setting := by
    intro name key p v hp hv
    have hmem := Document.mem_of_get? hp
    simp only [List.mem_cons, Prod.mk.injEq, List.not_mem_nil, or_false] at hmem
    rcases hmem with ⟨rfl, rfl⟩ | ⟨rfl, rfl⟩
    · obtain ⟨rfl, rfl⟩ := Prod.mk.inj (List.mem_singleton.mp (Document.mem_of_get? hv))
      exact ⟨.recursion, rfl, rfl⟩
    · obtain ⟨rfl, rfl⟩ := Prod.mk.inj (List.mem_singleton.mp (Document.mem_of_get? hv))
      exact ⟨.json, rfl, rfl⟩
  value := by
    intro s v hv
    cases s with
    | recursion =>
        cases hv
        exact .inr rfl
    | json =>
        cases hv
        exact ⟨true, rfl⟩
    | _ => cases hv

/-- The text sets two values, and the others are the defaults. -/
theorem load_sampleText :
    Toml.parse? sampleText = some sample ∧ Sectioned sample ∧
      (load sampleText).value =
        .ok { checker := { recursion := .constructorArgsOnly }, logging := { json := true } } := by
  refine ⟨parse?_sampleText, sample_sectioned, ?_⟩
  refine ((load_lays_settings_over_defaults parse?_sampleText sample_sectioned).2.1 _).mpr
    ⟨sample_wellTyped, fun s => ?_⟩
  cases s <;> rfl

end Config

end JavaChecker
