import JavaChecker.Config.Basic
import JavaChecker.Proofs.Records

/-!
# JavaChecker.Proofs.Codec

How the values of the model and the configuration may be spelled, and that their codecs are
faithful to that.

Each type has a spelling, given by the names, the order and the defaults of its fields or by the
names of its variants. A codec is `Faithful` to a spelling if it decodes every spelling of a value
to that value, and nothing else to it, and if what it encodes is itself a spelling. Decoding then
undoes encoding, and what decodes can be written again without loss.
-/

namespace JavaChecker

variable {α : Type}

/-! ### Faithful codecs -/

/-- Decoding and encoding keep to a spelling, the encoding on values within bounds. -/
structure Faithful (decode : Decoder α) (encode : α → Document) (spells : Spelling α)
    (bounded : α → Prop) : Prop where
  /-- Every spelling of a value decodes to the value. -/
  decodes : ∀ {v : α} {d : Document}, spells v d → decode d = .ok v
  /-- What decodes to a value is a spelling of it. -/
  exact : ∀ {v : α} {d : Document}, d.Distinct → decode d = .ok v → spells v d
  /-- The encoding of a value is one of its spellings. -/
  canonical : ∀ {v : α}, bounded v → spells v (encode v)
  /-- Decoding undoes encoding. -/
  decode_encode : ∀ {v : α}, bounded v → decode (encode v) = .ok v
  /-- What decodes to a value is within bounds, and the value encoded again decodes to itself. -/
  reencodes : ∀ {v : α} {d : Document}, decode d = .ok v → bounded v ∧ decode (encode v) = .ok v

theorem Decoder.Reads.faithful {decode : Decoder α} {encode : α → Document} {spells : Spelling α}
    {bounded : α → Prop} (h : Decoder.Reads decode spells)
    (hcanonical : ∀ {v : α}, bounded v → spells v (encode v))
    (hbounded : ∀ {v : α} {d : Document}, decode d = .ok v → bounded v) :
    Faithful decode encode spells bounded where
  decodes := h.complete
  exact := h.sound
  canonical := hcanonical
  decode_encode := fun hv => h.complete (hcanonical hv)
  reencodes := fun hd => ⟨hbounded hd, h.complete (hcanonical (hbounded hd))⟩

/-- A table that gives every field in declaration order is a spelling. -/
theorem RecordSpelling.spells_of_fields {s : RecordSpelling α} (hnames : s.names.Nodup)
    {dialect : Dialect} {v : α} {entries : List (String × Document)}
    (h : List.Forall₂ (fun f e => e.1 = f.name ∧ f.spelling (f.get v) e.2) s.fields entries) :
    s.Spells dialect v (.table entries) := by
  have hkeys : entries.map Prod.fst = s.names := by
    have hmap : List.Forall₂ Eq (entries.map Prod.fst) (s.fields.map (·.name)) := by
      rw [List.forall₂_map_left_iff, List.forall₂_map_right_iff]
      exact h.flip.imp fun _ _ he => he.1
    exact List.forall₂_eq_eq_eq ▸ hmap
  have hnodup : (entries.map Prod.fst).Nodup := hkeys ▸ hnames
  refine .table hnodup (fun _ => by rw [hkeys]; exact List.Subset.refl _) fun f hf => ?_
  obtain ⟨i, hi, rfl⟩ := List.mem_iff_getElem.mp hf
  have he := h.get hi (h.length_eq ▸ hi)
  have hmem : entries.get ⟨i, h.length_eq ▸ hi⟩ ∈ entries := List.get_mem _ _
  have hget : (Document.table entries).get? s.fields[i].name =
      some (entries.get ⟨i, h.length_eq ▸ hi⟩).2 := by
    rw [Document.get?_eq_some_iff hnodup]
    have hname : (entries.get ⟨i, h.length_eq ▸ hi⟩).1 = s.fields[i].name := he.1
    rw [← hname]
    exact hmem
  change s.fields[i].Holds v ((Document.table entries).get? s.fields[i].name)
  rw [hget]
  exact he.2

/-! ### Identifiers and types -/

/-- An identifier is spelled as its number. -/
def ClassId.spelling : Spelling ClassId := fun id d => d = .natural id.index

theorem ClassId.index_ofNat {n : Nat} (h : n < limit) : (⟨UInt32.ofNat n⟩ : ClassId).index = n :=
  index_of_ofIndex? (by rw [ofIndex?, if_pos h])

theorem ClassId.reads : Decoder.Reads ClassId.decode ClassId.spelling where
  complete := by
    intro id d h
    subst h
    have hn : Decoder.natural limit "u32" (.natural id.index) = .ok id.index :=
      (reads_natural limit "u32").complete ⟨id.index_lt_limit, rfl⟩
    rw [decode, hn, Except.map, index, UInt32.ofNat_toNat]
  sound := by
    intro id d hd h
    obtain ⟨n, hn, rfl⟩ := map_eq_ok_iff.mp h
    obtain ⟨hlt, rfl⟩ := (reads_natural limit "u32").sound hd hn
    rw [spelling, index_ofNat hlt]

theorem ClassId.spells_toDocument (id : ClassId) : spelling id id.toDocument := rfl

theorem Primitive.reads : Decoder.Reads Primitive.decode (.named .json keyword) :=
  reads_named .json (fun p => by cases p <;> decide) (fun p q => by cases p <;> cases q <;> decide)

/-- The spellings of a type. -/
inductive Ty.Spells : Ty → Document → Prop where
  | void {d : Document} : Variant.Named .json "Void" d → Spells .void d
  | null {d : Document} : Variant.Named .json "Null" d → Spells .null d
  | primitive {p : Primitive} {d : Document} : Spelling.named .json Primitive.keyword p d →
      Spells (.primitive p) (.table [("Primitive", d)])
  | ofClass {id : ClassId} {d : Document} : ClassId.spelling id d →
      Spells (.ofClass id) (.table [("Class", d)])

namespace Ty

theorem reads : Decoder.Reads Ty.decode Ty.Spells where
  complete := by
    intro ty d h
    cases h with
    | void h | null h =>
        cases h with
        | word => rfl
        | key hd =>
            cases hd
            rfl
    | primitive hp =>
        change (Primitive.decode _).map Ty.primitive = _
        rw [Primitive.reads.complete hp]
        rfl
    | ofClass hid =>
        change (ClassId.decode _).map Ty.ofClass = _
        rw [ClassId.reads.complete hid]
        rfl
  sound := by
    intro ty d hd hok
    obtain ⟨name, rfl, h⟩ | ⟨name, e, rfl, h⟩ := Variant.decode_eq_ok_iff.mp hok
    · obtain ⟨v, hv, rfl, hgives⟩ := Variant.exists_of_pick h
      simp only [variants, List.mem_cons, List.not_mem_nil, or_false] at hv
      rcases hv with rfl | rfl | rfl | rfl
      · obtain ⟨rfl, _⟩ := hgives
        exact .void .word
      · obtain ⟨_, hsome, _⟩ := hgives
        cases hsome
      · obtain ⟨rfl, _⟩ := hgives
        exact .null .word
      · obtain ⟨_, hsome, _⟩ := hgives
        cases hsome
    · have he : e.Distinct := hd.entries _ (List.mem_singleton_self _)
      obtain ⟨v, hv, rfl, hgives⟩ := Variant.exists_of_pick h
      simp only [variants, List.mem_cons, List.not_mem_nil, or_false] at hv
      rcases hv with rfl | rfl | rfl | rfl
      · obtain ⟨rfl, hnothing⟩ := hgives
        exact .void (.key (hnothing e rfl))
      · obtain ⟨_, hsome, hdecode⟩ := hgives
        cases hsome
        obtain ⟨p, hp, rfl⟩ := map_eq_ok_iff.mp hdecode
        exact .primitive (Primitive.reads.sound he hp)
      · obtain ⟨rfl, hnothing⟩ := hgives
        exact .null (.key (hnothing e rfl))
      · obtain ⟨_, hsome, hdecode⟩ := hgives
        cases hsome
        obtain ⟨id, hid, rfl⟩ := map_eq_ok_iff.mp hdecode
        exact .ofClass (ClassId.reads.sound he hid)

theorem spells_toDocument (ty : Ty) : ty.Spells ty.toDocument := by
  cases ty with
  | void => exact .void .word
  | primitive p => exact .primitive .word
  | null => exact .null .word
  | ofClass id => exact .ofClass rfl

end Ty

/-- A list is written as an array of what its elements are written as. -/
theorem Spelling.list_map {spells : Spelling α} {encode : α → Document}
    (h : ∀ v, spells v (encode v)) (vs : List α) :
    Spelling.list spells vs (.list (vs.map encode)) := by
  refine ⟨.listed, _, rfl, ?_⟩
  rw [List.forall₂_map_right_iff]
  exact List.forall₂_same.mpr fun v _ => h v

/-! ### Classes -/

theorem ClassKind.reads : Decoder.Reads ClassKind.decode (.named .json word) :=
  reads_named .json (fun k => by cases k <;> decide) (fun k l => by cases k <;> cases l <;> decide)

namespace MethodDef

/-- All fields of a method must be given. -/
def spelling : RecordSpelling MethodDef where
  fields := [
    { name := "name", get := (·.name), spelling := .string },
    { name := "params", get := (·.params), spelling := .list Ty.Spells },
    { name := "return_type", get := (·.returnType), spelling := Ty.Spells }]

theorem follows : record.Follows spelling where
  closed_eq := rfl
  fields := by
    refine .cons ?_ (.cons ?_ (.cons ?_ .nil))
    · exact RecordField.follows_of_reads reads_string rfl (by simp) (fun _ _ => rfl)
        (by simp [spelling])
    · exact RecordField.follows_of_reads (reads_list Ty.reads) rfl (by simp) (fun _ _ => rfl)
        (by simp [spelling])
    · exact RecordField.follows_of_reads Ty.reads rfl (by simp) (fun _ _ => rfl)
        (by simp [spelling])
  names_nodup := by decide
  ext := RecordSpelling.ext_of_make (fun v => ⟨v.1, v.2.1, v.2.2.1⟩) fun _ => rfl
  refuses_datetime := Record.ofTable_datetime_ne_ok (by decide) (by decide)

theorem spells_toDocument (m : MethodDef) : spelling.Spells .json m m.toDocument :=
  RecordSpelling.spells_of_fields follows.names_nodup
    (.cons ⟨rfl, rfl⟩ (.cons ⟨rfl, Spelling.list_map Ty.spells_toDocument _⟩
      (.cons ⟨rfl, Ty.spells_toDocument _⟩ .nil)))

end MethodDef

namespace ConstructorDef

/-- The parameters of a constructor must be given. -/
def spelling : RecordSpelling ConstructorDef where
  fields := [{ name := "params", get := (·.params), spelling := .list Ty.Spells }]

theorem follows : record.Follows spelling where
  closed_eq := rfl
  fields := by
    refine .cons ?_ .nil
    exact RecordField.follows_of_reads (reads_list Ty.reads) rfl (by simp) (fun _ _ => rfl)
      (by simp [spelling])
  names_nodup := by decide
  ext := RecordSpelling.ext_of_make (fun v => ⟨v.1⟩) fun _ => rfl
  refuses_datetime := Record.ofTable_datetime_ne_ok (by decide) (by decide)

theorem spells_toDocument (c : ConstructorDef) : spelling.Spells .json c c.toDocument :=
  RecordSpelling.spells_of_fields follows.names_nodup
    (.cons ⟨rfl, Spelling.list_map Ty.spells_toDocument _⟩ .nil)

theorem not_spells_null (c : ConstructorDef) : ¬ spelling.Spells .json c .null := by
  intro h
  cases h

end ConstructorDef

namespace ClassDef

/-- The name and the kind of a class must be given; it has no supertypes, no declared constructor
and no methods unless they are given. -/
def spelling : RecordSpelling ClassDef where
  fields := [
    { name := "name", get := (·.name), spelling := .string },
    { name := "kind", get := (·.kind), spelling := .named .json ClassKind.word },
    { name := "supertypes", get := (·.supertypes), spelling := .list ClassId.spelling,
      default? := some [] },
    { name := "constructor", get := (·.constructor?),
      spelling := .nullable (ConstructorDef.spelling.Spells .json), default? := some none },
    { name := "methods", get := (·.methods), spelling := .list (MethodDef.spelling.Spells .json),
      default? := some [] }]

theorem follows : record.Follows spelling where
  closed_eq := rfl
  fields := by
    refine .cons ?_ (.cons ?_ (.cons ?_ (.cons ?_ (.cons ?_ .nil))))
    · exact RecordField.follows_of_reads reads_string rfl (by simp) (fun _ _ => rfl)
        (by simp [spelling])
    · exact RecordField.follows_of_reads ClassKind.reads rfl (by simp) (fun _ _ => rfl)
        (by simp [spelling])
    · exact RecordField.follows_of_reads (reads_list ClassId.reads) rfl (by simp [record])
        (fun _ _ => rfl) (by simp [spelling])
    · exact RecordField.follows_of_reads
        (reads_nullable (ConstructorDef.follows.reads .json) ConstructorDef.not_spells_null) rfl
        (by simp [record]) (fun _ _ => rfl) (by simp [spelling])
    · exact RecordField.follows_of_reads (reads_list (MethodDef.follows.reads .json)) rfl
        (by simp [record]) (fun _ _ => rfl) (by simp [spelling])
  names_nodup := by decide
  ext := RecordSpelling.ext_of_make
    (fun v => ⟨v.1, v.2.1, v.2.2.1, v.2.2.2.1, v.2.2.2.2.1⟩) fun _ => rfl
  refuses_datetime := Record.ofTable_datetime_ne_ok (by decide) (by decide)

theorem spells_toDocument (c : ClassDef) : spelling.Spells .json c c.toDocument := by
  have hconstructor : Spelling.nullable (ConstructorDef.spelling.Spells .json) c.constructor?
      (c.constructor?.elim .null ConstructorDef.toDocument) := by
    cases c.constructor? with
    | none => rfl
    | some k => exact k.spells_toDocument
  exact RecordSpelling.spells_of_fields follows.names_nodup
    (.cons ⟨rfl, rfl⟩ (.cons ⟨rfl, .word⟩
      (.cons ⟨rfl, Spelling.list_map ClassId.spells_toDocument _⟩ (.cons ⟨rfl, hconstructor⟩
        (.cons ⟨rfl, Spelling.list_map MethodDef.spells_toDocument _⟩ .nil)))))

end ClassDef

namespace WellKnown

/-- Both well-known identifiers must be given. -/
def spelling : RecordSpelling WellKnown where
  fields := [
    { name := "object", get := (·.object), spelling := ClassId.spelling },
    { name := "string", get := (·.string), spelling := ClassId.spelling }]

theorem follows : record.Follows spelling where
  closed_eq := rfl
  fields := by
    refine .cons ?_ (.cons ?_ .nil)
    · exact RecordField.follows_of_reads ClassId.reads rfl (by simp) (fun _ _ => rfl)
        (by simp [spelling])
    · exact RecordField.follows_of_reads ClassId.reads rfl (by simp) (fun _ _ => rfl)
        (by simp [spelling])
  names_nodup := by decide
  ext := RecordSpelling.ext_of_make (fun v => ⟨v.1, v.2.1⟩) fun _ => rfl
  refuses_datetime := Record.ofTable_datetime_ne_ok (by decide) (by decide)

theorem spells_toDocument (w : WellKnown) : spelling.Spells .json w w.toDocument :=
  RecordSpelling.spells_of_fields follows.names_nodup (.cons ⟨rfl, rfl⟩ (.cons ⟨rfl, rfl⟩ .nil))

end WellKnown

/-! ### Errors and diagnostics -/

theorem TypeErrorKind.reads : Decoder.Reads TypeErrorKind.decode (.named .json code) :=
  reads_named .json (fun k => by cases k <;> decide) (fun k l => by cases k <;> cases l <;> decide)

theorem Severity.reads : Decoder.Reads Severity.decode (.named .json word) :=
  reads_named .json (fun k => by cases k <;> decide) (fun k l => by cases k <;> cases l <;> decide)

namespace Diagnostic

/-- All fields of a diagnostic must be given. -/
def spelling : RecordSpelling Diagnostic where
  fields := [
    { name := "severity", get := (·.severity), spelling := .named .json Severity.word },
    { name := "code", get := (·.code), spelling := .string },
    { name := "message", get := (·.message), spelling := .string }]

theorem follows : record.Follows spelling where
  closed_eq := rfl
  fields := by
    refine .cons ?_ (.cons ?_ (.cons ?_ .nil))
    · exact RecordField.follows_of_reads Severity.reads rfl (by simp) (fun _ _ => rfl)
        (by simp [spelling])
    · exact RecordField.follows_of_reads reads_string rfl (by simp) (fun _ _ => rfl)
        (by simp [spelling])
    · exact RecordField.follows_of_reads reads_string rfl (by simp) (fun _ _ => rfl)
        (by simp [spelling])
  names_nodup := by decide
  ext := RecordSpelling.ext_of_make (fun v => ⟨v.1, v.2.1, v.2.2.1⟩) fun _ => rfl
  refuses_datetime := Record.ofTable_datetime_ne_ok (by decide) (by decide)

theorem spells_toDocument (x : Diagnostic) : spelling.Spells .json x x.toDocument :=
  RecordSpelling.spells_of_fields follows.names_nodup
    (.cons ⟨rfl, .word⟩ (.cons ⟨rfl, rfl⟩ (.cons ⟨rfl, rfl⟩ .nil)))

end Diagnostic

/-! ### The configuration -/

theorem Policy.reads (dialect : Dialect) :
    Decoder.Reads (Policy.decode dialect) (.named dialect word) :=
  reads_named dialect (fun p => by cases p <;> decide)
    (fun p q => by cases p <;> cases q <;> decide)

namespace CheckOptions

/-- A check descends everywhere unless a policy is given. -/
def spelling (dialect : Dialect) : RecordSpelling CheckOptions where
  fields := [
    { name := "recursion", get := (·.recursion), spelling := .named dialect Policy.word,
      default? := some .uniform }]
  closed := true

theorem follows (dialect : Dialect) : (record dialect).Follows (spelling dialect) where
  closed_eq := rfl
  fields := by
    refine .cons ?_ .nil
    exact RecordField.follows_of_reads (Policy.reads dialect) rfl (by simp [record])
      (fun _ _ => rfl) (by simp [spelling])
  names_nodup := by cases dialect <;> decide
  ext := RecordSpelling.ext_of_make (fun v => ⟨v.1⟩) fun _ => rfl
  refuses_datetime :=
    Record.ofTable_datetime_ne_ok (by cases dialect <;> decide) (by cases dialect <;> decide)

theorem spells_toDocument (dialect : Dialect) (o : CheckOptions) :
    (spelling dialect).Spells dialect o o.toDocument :=
  RecordSpelling.spells_of_fields (follows dialect).names_nodup (.cons ⟨rfl, .word⟩ .nil)

end CheckOptions

namespace LoggingConfig

/-- The settings of the log with their defaults. -/
def spelling : RecordSpelling LoggingConfig where
  fields := [
    { name := "level", get := (·.level), spelling := .string, default? := some "info" },
    { name := "json", get := (·.json), spelling := .boolean, default? := some false },
    { name := "stderr", get := (·.stderr), spelling := .boolean, default? := some true },
    { name := "file", get := (·.file), spelling := .nullable .string, default? := some none },
    { name := "buffer_lines", get := (·.bufferLines), spelling := .natural countLimit,
      default? := some 1000 }]
  closed := true

theorem follows : record.Follows spelling where
  closed_eq := rfl
  fields := by
    refine .cons ?_ (.cons ?_ (.cons ?_ (.cons ?_ (.cons ?_ .nil))))
    · exact RecordField.follows_of_reads reads_string rfl (by simp [record]) (fun _ _ => rfl)
        (by simp [spelling])
    · exact RecordField.follows_of_reads reads_boolean rfl (by simp [record]) (fun _ _ => rfl)
        (by simp [spelling])
    · exact RecordField.follows_of_reads reads_boolean rfl (by simp [record]) (fun _ _ => rfl)
        (by simp [spelling])
    · exact RecordField.follows_of_reads (reads_nullable reads_path (by simp [Spelling.string])) rfl
        (by simp [record]) (fun _ _ => rfl) (by simp [spelling])
    · exact RecordField.follows_of_reads (reads_natural countLimit "usize") rfl (by simp [record])
        (fun _ _ => rfl) (by simp [spelling])
  names_nodup := by decide
  ext := RecordSpelling.ext_of_make
    (fun v => ⟨v.1, v.2.1, v.2.2.1, v.2.2.2.1, v.2.2.2.2.1⟩) fun _ => rfl
  refuses_datetime := Record.ofTable_datetime_ne_ok (by decide) (by decide)

/-- The number of lines kept fits a machine word. -/
def Bounded (c : LoggingConfig) : Prop := c.bufferLines < countLimit

theorem spells_toDocument (dialect : Dialect) {c : LoggingConfig} (h : c.Bounded) :
    spelling.Spells dialect c c.toDocument := by
  have hfile : Spelling.nullable .string c.file (.text? c.file) := by
    cases c.file with
    | none => rfl
    | some path => rfl
  exact RecordSpelling.spells_of_fields follows.names_nodup
    (.cons ⟨rfl, rfl⟩ (.cons ⟨rfl, rfl⟩ (.cons ⟨rfl, rfl⟩ (.cons ⟨rfl, hfile⟩
      (.cons ⟨rfl, h, rfl⟩ .nil)))))

end LoggingConfig

namespace Config

/-- A configuration and its parts, each with its default. -/
def spelling (dialect : Dialect) : RecordSpelling Config where
  fields := [
    { name := "checker", get := (·.checker),
      spelling := (CheckOptions.spelling dialect).Spells dialect, default? := some {} },
    { name := "logging", get := (·.logging),
      spelling := LoggingConfig.spelling.Spells dialect, default? := some {} }]
  closed := true

theorem follows (dialect : Dialect) : (record dialect).Follows (spelling dialect) where
  closed_eq := rfl
  fields := by
    refine .cons ?_ (.cons ?_ .nil)
    · exact RecordField.follows_of_reads ((CheckOptions.follows dialect).reads dialect) rfl
        (by simp [record]) (fun _ _ => rfl) (by simp [spelling])
    · exact RecordField.follows_of_reads (LoggingConfig.follows.reads dialect) rfl
        (by simp [record]) (fun _ _ => rfl) (by simp [spelling])
  names_nodup := by cases dialect <;> decide
  ext := RecordSpelling.ext_of_make (fun v => ⟨v.1, v.2.1⟩) fun _ => rfl
  refuses_datetime :=
    Record.ofTable_datetime_ne_ok (by cases dialect <;> decide) (by cases dialect <;> decide)

theorem spells_toDocument (dialect : Dialect) {c : Config} (h : c.logging.Bounded) :
    (spelling dialect).Spells dialect c c.toDocument :=
  RecordSpelling.spells_of_fields (follows dialect).names_nodup
    (.cons ⟨rfl, c.checker.spells_toDocument dialect⟩
      (.cons ⟨rfl, LoggingConfig.spells_toDocument dialect h⟩ .nil))

end Config

/-! ### What decodes is within bounds -/

/-- What the blank record satisfies and every field keeps holds of every record that decodes, even
from tables with repeated keys. -/
theorem Record.decode_induction {r : Record α} (hnames : r.names.Nodup) {P : α → Prop}
    (hblank : P r.blank)
    (hread : ∀ f ∈ r.fields, ∀ d a a', P a → f.read d a = .ok a' → P a')
    {dialect : Dialect} {d : Document} {v : α} (h : r.decode dialect d = .ok v) : P v := by
  have hentries : ∀ {entries : List (String × Document)} {a : α}, P a →
      r.readEntries entries a = .ok v → P v := by
    intro entries
    induction entries with
    | nil =>
        intro a ha hok
        cases hok
        exact ha
    | cons e rest ih =>
        intro a ha hok
        obtain ⟨key, d⟩ := e
        cases hf : r.field? key with
        | none =>
            rw [readEntries, hf] at hok
            dsimp only at hok
            split at hok
            · cases hok
            · exact ih ha hok
        | some f =>
            rw [readEntries_cons_of_field? hf, bind_eq_ok_iff] at hok
            obtain ⟨a', hread', hok⟩ := hok
            exact ih (hread f (List.mem_of_find?_eq_some hf) d a a' ha hread') hok
  have htable : ∀ {entries : List (String × Document)}, r.ofTable entries = .ok v → P v :=
    fun hok => hentries hblank (ofTable_eq_ok_iff.mp hok).1
  cases d with
  | table entries => exact htable h
  | array style items => exact htable ((ofArray_eq_ok_iff hnames).mp h).1
  | datetime text => exact htable h
  | _ => cases h

theorem Decoder.natural_lt {limit n : Nat} {kind : String} {d : Document}
    (h : Decoder.natural limit kind d = .ok n) : n < limit := by
  cases d with
  | integer m =>
      exact ((reads_natural limit kind).sound (.scalar rfl trivial) h).1
  | _ => cases h

theorem LoggingConfig.bounded_of_decode {dialect : Dialect} {d : Document} {c : LoggingConfig}
    (h : decode dialect d = .ok c) : c.Bounded := by
  have hblank : record.blank.Bounded := by
    change 1000 < countLimit
    decide
  refine Record.decode_induction (r := record) (by decide) hblank ?_ h
  intro f hf d a a' ha hok
  simp only [record, List.mem_cons, List.not_mem_nil, or_false] at hf
  rcases hf with rfl | rfl | rfl | rfl | rfl
  all_goals
    obtain ⟨x, hx, rfl⟩ := map_eq_ok_iff.mp hok
  case inr.inr.inr.inr => exact Decoder.natural_lt hx
  all_goals exact ha

theorem Config.bounded_of_decode {dialect : Dialect} {d : Document} {c : Config}
    (h : decode dialect d = .ok c) : c.logging.Bounded := by
  have hblank : (record dialect).blank.logging.Bounded := by
    change 1000 < LoggingConfig.countLimit
    decide
  refine Record.decode_induction (r := record dialect) (P := fun c => c.logging.Bounded)
    (by cases dialect <;> decide) hblank ?_ h
  intro f hf d a a' ha hok
  simp only [record, List.mem_cons, List.not_mem_nil, or_false] at hf
  rcases hf with rfl | rfl
  · obtain ⟨x, _, rfl⟩ := map_eq_ok_iff.mp hok
    exact ha
  · obtain ⟨x, hx, rfl⟩ := map_eq_ok_iff.mp hok
    exact LoggingConfig.bounded_of_decode hx

/-! ### Every codec is faithful -/

/-- **Every spelling decodes to its value**, for every type that is written in documents. Records
may be written by name, in any order and with other keys beside the fields unless the record is
closed, or by position; fields with their default may be left out, at the end if by position; and
variants that carry nothing may be written with `null` under their name. This is so independently
at each level. The encoding of a value is one of its spellings. -/
theorem codecs_faithful_to_spellings :
    Faithful ClassId.decode ClassId.toDocument ClassId.spelling (fun _ => True) ∧
    Faithful Primitive.decode Primitive.toDocument (.named .json Primitive.keyword)
      (fun _ => True) ∧
    Faithful Ty.decode Ty.toDocument Ty.Spells (fun _ => True) ∧
    Faithful ClassKind.decode ClassKind.toDocument (.named .json ClassKind.word) (fun _ => True) ∧
    Faithful Severity.decode Severity.toDocument (.named .json Severity.word) (fun _ => True) ∧
    Faithful MethodDef.decode MethodDef.toDocument (MethodDef.spelling.Spells .json)
      (fun _ => True) ∧
    Faithful ConstructorDef.decode ConstructorDef.toDocument (ConstructorDef.spelling.Spells .json)
      (fun _ => True) ∧
    Faithful ClassDef.decode ClassDef.toDocument (ClassDef.spelling.Spells .json)
      (fun _ => True) ∧
    Faithful WellKnown.decode WellKnown.toDocument (WellKnown.spelling.Spells .json)
      (fun _ => True) ∧
    Faithful Diagnostic.decode Diagnostic.toDocument (Diagnostic.spelling.Spells .json)
      (fun _ => True) ∧
    Faithful (Policy.decode .json) Policy.toDocument (.named .json Policy.word) (fun _ => True) ∧
    Faithful (CheckOptions.decode .json) CheckOptions.toDocument
      ((CheckOptions.spelling .json).Spells .json) (fun _ => True) ∧
    Faithful TypeErrorKind.decode TypeErrorKind.toDocument (.named .json TypeErrorKind.code)
      (fun _ => True) ∧
    Faithful (LoggingConfig.decode .json) LoggingConfig.toDocument
      (LoggingConfig.spelling.Spells .json) LoggingConfig.Bounded ∧
    Faithful (Config.decode .json) Config.toDocument ((Config.spelling .json).Spells .json)
      (fun c => c.logging.Bounded) := by
  refine ⟨?_, ?_, ?_, ?_, ?_, ?_, ?_, ?_, ?_, ?_, ?_, ?_, ?_, ?_, ?_⟩
  · exact ClassId.reads.faithful (fun _ => rfl) fun _ => trivial
  · exact Primitive.reads.faithful (fun _ => .word) fun _ => trivial
  · exact Ty.reads.faithful (fun _ => Ty.spells_toDocument _) fun _ => trivial
  · exact ClassKind.reads.faithful (fun _ => .word) fun _ => trivial
  · exact Severity.reads.faithful (fun _ => .word) fun _ => trivial
  · exact (MethodDef.follows.reads .json).faithful (fun _ => MethodDef.spells_toDocument _)
      fun _ => trivial
  · exact (ConstructorDef.follows.reads .json).faithful
      (fun _ => ConstructorDef.spells_toDocument _) fun _ => trivial
  · exact (ClassDef.follows.reads .json).faithful (fun _ => ClassDef.spells_toDocument _)
      fun _ => trivial
  · exact (WellKnown.follows.reads .json).faithful (fun _ => WellKnown.spells_toDocument _)
      fun _ => trivial
  · exact (Diagnostic.follows.reads .json).faithful (fun _ => Diagnostic.spells_toDocument _)
      fun _ => trivial
  · exact (Policy.reads .json).faithful (fun _ => .word) fun _ => trivial
  · exact ((CheckOptions.follows .json).reads .json).faithful
      (fun _ => CheckOptions.spells_toDocument .json _) fun _ => trivial
  · exact TypeErrorKind.reads.faithful (fun _ => .word) fun _ => trivial
  · exact (LoggingConfig.follows.reads .json).faithful (LoggingConfig.spells_toDocument .json)
      LoggingConfig.bounded_of_decode
  · exact ((Config.follows .json).reads .json).faithful (Config.spells_toDocument .json)
      Config.bounded_of_decode

end JavaChecker
