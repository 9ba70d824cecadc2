import JavaChecker.Proofs.Spelling

/-!
# JavaChecker.Proofs.Records

How records may be written, and that their decoders read exactly what is written that way.

A decoder describes a record by setters and a blank record to start from, a spelling by getters and
defaults. `Record.Follows` says that the two describe the same record: reading a field gives it its
value and leaves the others alone, and the fields make up the record. From that, `Follows.reads`
shows that the decoder accepts the spellings of a record, whatever the order of their entries.

Fields are found by name in a table and by position in an array. `Record.ofArray_eq_ok_iff` shows
that an array says what the table says which gives its elements to the fields in declaration order,
so that the rest of the theory is about tables.
-/

namespace JavaChecker

variable {α β : Type}

/-! ### Spellings of records -/

namespace Document

/-- What a document gives for one of several fields: the entry under its name, or the element at
its position. -/
def given? (names : List String) (d : Document) (name : String) : Option Document :=
  match d with
  | .table entries => (table entries).get? name
  | .array _ items => (table (names.zip items)).get? name
  | .null | .boolean _ | .integer _ | .float _ | .string _ | .datetime _ => none

theorem keys_zip (names : List String) (items : List Document) :
    (names.zip items).map Prod.fst = names.take items.length := by
  rw [List.zip_eq_zip_take_min, List.map_fst_zip (by simp), List.take_eq_take_iff]
  omega

end Document

/-- How a field of a record is written: its name, how its value is spelled, and the value that it
has when it is left out, if it may be. -/
structure FieldSpelling (α : Type) where
  name : String
  {Value : Type}
  get : α → Value
  spelling : Spelling Value
  default? : Option Value := none

/-- What is given for a field, if anything is, stands for the value it has in the record. -/
def FieldSpelling.Holds (f : FieldSpelling α) (v : α) : Option Document → Prop
  | some d => f.spelling (f.get v) d
  | none => f.default? = some (f.get v)

/-- How a record is written: its fields in declaration order, and whether no others may be
given. -/
structure RecordSpelling (α : Type) where
  fields : List (FieldSpelling α)
  closed : Bool := false

namespace RecordSpelling

/-- The names of the fields in declaration order. -/
def names (s : RecordSpelling α) : List String := s.fields.map (·.name)

/-- The document gives the record: each field has its value or is left out for its default. -/
def GivenBy (s : RecordSpelling α) (v : α) (d : Document) : Prop :=
  ∀ f ∈ s.fields, f.Holds v (d.given? s.names f.name)

/-- The spellings of a record. -/
inductive Spells (s : RecordSpelling α) (dialect : Dialect) : Spelling α where
  /-- As a table, with its entries in any order; other keys may stand beside the fields, unless
  the record is closed. -/
  | table {v : α} {entries : List (String × Document)} :
      (entries.map Prod.fst).Nodup → (s.closed = true → entries.map Prod.fst ⊆ s.names) →
      s.GivenBy v (.table entries) → Spells s dialect v (.table entries)
  /-- As an array, whose elements are given to the fields in declaration order; the fields that
  get none are left out. -/
  | array {v : α} {style : ArrayStyle} {items : List Document} :
      (dialect = .json → items.length ≤ s.fields.length) → s.GivenBy v (.array style items) →
      Spells s dialect v (.array style items)

/-- One value for each of several fields. -/
def Values : List (FieldSpelling α) → Type
  | [] => Unit
  | f :: fields => f.Value × Values fields

/-- The values that a record has in several fields. -/
def valuesOf (a : α) : (fields : List (FieldSpelling α)) → Values fields
  | [] => ()
  | f :: fields => (f.get a, valuesOf a fields)

theorem valuesOf_congr {a b : α} {fields : List (FieldSpelling α)}
    (h : ∀ f ∈ fields, f.get a = f.get b) : valuesOf a fields = valuesOf b fields := by
  induction fields with
  | nil => rfl
  | cons f fields ih =>
      rw [List.forall_mem_cons] at h
      rw [valuesOf, valuesOf, h.1, ih h.2]

/-- Records that can be made again from their values are equal if their values are. -/
theorem ext_of_make {s : RecordSpelling α} (make : Values s.fields → α)
    (hmake : ∀ a, make (valuesOf a s.fields) = a) {a b : α}
    (h : ∀ f ∈ s.fields, f.get a = f.get b) : a = b := by
  rw [← hmake a, ← hmake b, valuesOf_congr h]

end RecordSpelling

/-! ### Decoders that follow a spelling -/

/-- The decoder of a field follows its spelling: it reads the value of the field and leaves the
other fields of the record alone. -/
structure RecordField.Follows (s : RecordSpelling α) (blank : α) (f : RecordField α)
    (g : FieldSpelling α) : Prop where
  name_eq : f.name = g.name
  required_eq : f.required = g.default?.isNone
  blank_eq : ∀ {x : g.Value}, g.default? = some x → g.get blank = x
  complete : ∀ {x : g.Value} {d : Document} (a : α), g.spelling x d →
    ∃ a', f.read d a = .ok a' ∧ g.get a' = x
  sound : ∀ {d : Document} {a a' : α}, d.Distinct → f.read d a = .ok a' →
    g.spelling (g.get a') d
  frame : ∀ {d : Document} {a a' : α}, f.read d a = .ok a' →
    ∀ g' ∈ s.fields, g'.name ≠ g.name → g'.get a' = g'.get a

/-- A field that reads its value and sets it follows the spelling of the value. -/
theorem RecordField.follows_of_reads {s : RecordSpelling α} {blank : α} {name : String}
    {required : Bool} {value : Decoder β} {set : β → α → α} {get : α → β} {spells : Spelling β}
    {default? : Option β} (hreads : Decoder.Reads value spells)
    (hreq : required = default?.isNone) (hblank : ∀ {x : β}, default? = some x → get blank = x)
    (hget : ∀ x a, get (set x a) = x)
    (hframe : ∀ x a, ∀ g ∈ s.fields, g.name ≠ name → g.get (set x a) = g.get a) :
    RecordField.Follows s blank ⟨name, required, fun d a => (value d).map (set · a)⟩
      ⟨name, get, spells, default?⟩ where
  name_eq := rfl
  required_eq := hreq
  blank_eq := hblank
  complete := by
    intro x d a hx
    exact ⟨set x a, by simp only [hreads.complete hx, Except.map], hget x a⟩
  sound := by
    intro d a a' hd h
    obtain ⟨x, hx, rfl⟩ := map_eq_ok_iff.mp h
    have hspells : spells x d := hreads.sound hd hx
    rwa [← hget x a] at hspells
  frame := by
    intro d a a' h g hg hne
    obtain ⟨x, _, rfl⟩ := map_eq_ok_iff.mp h
    exact hframe x a g hg hne

/-- The description of a record by setters follows the one by getters. -/
structure Record.Follows (r : Record α) (s : RecordSpelling α) : Prop where
  closed_eq : r.closed = s.closed
  fields : List.Forall₂ (RecordField.Follows s r.blank) r.fields s.fields
  names_nodup : s.names.Nodup
  /-- The fields make up the record. -/
  ext : ∀ {a b : α}, (∀ g ∈ s.fields, g.get a = g.get b) → a = b
  /-- A point in time is not a record, although it presents itself as a table. -/
  refuses_datetime : ∀ text v, r.ofTable [(datetimeKey, .string text)] ≠ .ok v

namespace Record

/-! ### Arrays as tables -/

theorem readEntries_cons_of_field? {r : Record α} {key : String} {d : Document}
    {rest : List (String × Document)} {a : α} {f : RecordField α} (hf : r.field? key = some f) :
    r.readEntries ((key, d) :: rest) a = (f.read d a).bind (r.readEntries rest) := by
  rw [readEntries, hf]

theorem field?_of_mem {r : Record α} (hnames : r.names.Nodup) {f : RecordField α}
    (hf : f ∈ r.fields) : r.field? f.name = some f := by
  cases hg : r.field? f.name with
  | none => simpa using List.find?_eq_none.mp hg f hf
  | some g =>
      have hname : g.name = f.name := by simpa using List.find?_some hg
      rw [List.inj_on_of_nodup_map hnames (List.mem_of_find?_eq_some hg) hf hname]

/-- Elements are read into fields as entries are that have the names of the fields. -/
theorem readItems_eq_ok_iff {r : Record α} {fields : List (RecordField α)}
    (hfields : ∀ f ∈ fields, r.field? f.name = some f) {index : Nat} {items : List Document}
    {a v : α} {surplus : List Document} :
    r.readItems index fields items a = .ok (v, surplus) ↔
      r.readEntries ((fields.map (·.name)).zip items) a = .ok v ∧
      (∀ f ∈ fields.drop items.length, f.required = false) ∧
      items.drop fields.length = surplus := by
  induction fields generalizing index items a with
  | nil => simp [readItems, readEntries]
  | cons f fields ih =>
      have hrest : ∀ g ∈ fields, r.field? g.name = some g := fun g hg =>
        hfields g (List.mem_cons_of_mem _ hg)
      cases items with
      | nil =>
          by_cases hreq : f.required = true
          · simp [readItems, hreq]
          · have hfree : f.required = false := by simpa using hreq
            have h := @ih hrest (index + 1) [] a
            simp only [List.zip_nil_right, List.length_nil, List.drop_zero, List.drop_nil] at h
            simp [readItems, hfree, h]
      | cons d items =>
          rw [readItems, List.map_cons, List.zip_cons_cons,
            readEntries_cons_of_field? (hfields f (List.mem_cons_self ..))]
          simp only [bind_eq_ok_iff, ih hrest, List.length_cons, List.drop_succ_cons]
          exact ⟨fun ⟨a', ha, hv, h⟩ => ⟨⟨a', ha, hv⟩, h⟩, fun ⟨⟨a', ha, hv⟩, h⟩ => ⟨a', ha, hv, h⟩⟩

theorem missing?_eq_none_iff {r : Record α} {entries : List (String × Document)} :
    r.missing? entries = none ↔
      ∀ f ∈ r.fields, f.required = true → f.name ∈ entries.map Prod.fst := by
  simp [missing?]

theorem ofTable_eq_ok_iff {r : Record α} {entries : List (String × Document)} {v : α} :
    r.ofTable entries = .ok v ↔
      r.readEntries entries r.blank = .ok v ∧ r.missing? entries = none := by
  change (r.readEntries entries r.blank).bind _ = _ ↔ _
  rw [bind_eq_ok_iff]
  cases r.missing? entries with
  | none => simp
  | some name => simp

/-- A point in time, under its own key, is refused by a record that has no such field, if the record
is closed or must be given something. -/
theorem ofTable_datetime_ne_ok {r : Record α} (hkey : datetimeKey ∉ r.names)
    (hstrict : r.closed = true ∨ r.fields.any (·.required) = true) (text : String) (v : α) :
    r.ofTable [(datetimeKey, .string text)] ≠ .ok v := by
  intro hok
  obtain ⟨hread, hmissing⟩ := ofTable_eq_ok_iff.mp hok
  rcases hstrict with hclosed | hrequired
  · have hnone : r.field? datetimeKey = none := by simpa [field?, names] using hkey
    simp [readEntries, hnone, hclosed] at hread
  · obtain ⟨f, hf, hneeded⟩ := List.any_eq_true.mp hrequired
    have hname : datetimeKey ≠ f.name := by
      intro heq
      exact hkey (List.mem_map.mpr ⟨f, hf, heq.symm⟩)
    have hgiven : f.required = true → datetimeKey = f.name := by
      simpa [missing?] using List.find?_eq_none.mp (Option.map_eq_none_iff.mp hmissing) f hf
    exact hname (hgiven hneeded)

/-- The fields that get no element are those whose names the table lacks. -/
theorem missing?_zip_eq_none_iff {r : Record α} (hnames : r.names.Nodup)
    (items : List Document) :
    r.missing? (r.names.zip items) = none ↔
      ∀ f ∈ r.fields.drop items.length, f.required = false := by
  have hkeys : (r.names.zip items).map Prod.fst = (r.fields.take items.length).map (·.name) := by
    rw [Document.keys_zip, names, List.map_take]
  rw [missing?_eq_none_iff, hkeys]
  rw [names, ← List.take_append_drop items.length r.fields, List.map_append,
    List.nodup_append] at hnames
  refine ⟨?_, ?_⟩
  · intro h f hf
    by_contra hreq
    have hgiven := h f (List.mem_of_mem_drop hf) (by simpa using hreq)
    exact hnames.2.2 _ hgiven _ (List.mem_map_of_mem hf) rfl
  · intro h f hf hreq
    rw [← List.take_append_drop items.length r.fields, List.mem_append] at hf
    rcases hf with hf | hf
    · exact List.mem_map_of_mem hf
    · rw [h f hf] at hreq
      cases hreq

/-- **By position is by name**: an array decodes as the table that gives its elements to the
fields in declaration order, if the dialect lets it have that many. -/
theorem ofArray_eq_ok_iff {r : Record α} (hnames : r.names.Nodup) {dialect : Dialect}
    {items : List Document} {v : α} :
    r.ofArray dialect items = .ok v ↔
      r.ofTable (r.names.zip items) = .ok v ∧
      (dialect = .json → items.length ≤ r.fields.length) := by
  have hsurplus : items.drop r.fields.length ≠ [] ↔ r.fields.length < items.length := by
    rw [Ne, List.drop_eq_nil_iff, Nat.not_le]
  have hread (surplus : List Document) := @readItems_eq_ok_iff α r r.fields
    (fun f hf => field?_of_mem hnames hf) 0 items r.blank v surplus
  rw [ofTable_eq_ok_iff, missing?_zip_eq_none_iff hnames]
  change (r.readItems 0 r.fields items r.blank).bind _ = _ ↔ _
  rw [bind_eq_ok_iff]
  refine ⟨?_, ?_⟩
  · intro h
    obtain ⟨⟨a, surplus⟩, ha, h⟩ := h
    dsimp only at h
    split at h
    · cases h
    · next hfits =>
        cases h
        obtain ⟨hentries, hfree, rfl⟩ := (hread surplus).mp ha
        refine ⟨⟨hentries, hfree⟩, ?_⟩
        intro hjson
        by_contra hlen
        exact hfits ⟨hjson, hsurplus.mpr (Nat.lt_of_not_le hlen)⟩
  · intro h
    obtain ⟨⟨hentries, hfree⟩, hfits⟩ := h
    refine ⟨(v, items.drop r.fields.length), (hread _).mpr ⟨hentries, hfree, rfl⟩, ?_⟩
    have hno : ¬ (dialect = .json ∧ items.drop r.fields.length ≠ []) := by
      intro hboth
      exact absurd (hfits hboth.1) (Nat.not_le_of_lt (hsurplus.mp hboth.2))
    dsimp only
    rw [if_neg hno]

/-! ### Tables -/

namespace Follows

variable {r : Record α} {s : RecordSpelling α}

theorem names_eq (h : r.Follows s) : r.names = s.names := by
  have hmap : List.Forall₂ Eq (r.fields.map (·.name)) (s.fields.map (·.name)) := by
    rw [List.forall₂_map_left_iff, List.forall₂_map_right_iff]
    exact h.fields.imp fun _ _ hf => hf.name_eq
  exact List.forall₂_eq_eq_eq ▸ hmap

theorem exists_field (h : r.Follows s) {g : FieldSpelling α} (hg : g ∈ s.fields) :
    ∃ f, r.field? g.name = some f ∧ f ∈ r.fields ∧ RecordField.Follows s r.blank f g := by
  obtain ⟨i, hi, rfl⟩ := List.mem_iff_getElem.mp hg
  have hlen : r.fields.length = s.fields.length := h.fields.length_eq
  have hf := h.fields.get (hlen ▸ hi) hi
  have hmem : r.fields[i] ∈ r.fields := List.getElem_mem _
  have hname : r.fields[i].name = s.fields[i].name := hf.name_eq
  refine ⟨_, ?_, hmem, hf⟩
  rw [← hname]
  exact field?_of_mem (h.names_eq ▸ h.names_nodup) hmem

theorem exists_spelling (h : r.Follows s) {key : String} {f : RecordField α}
    (hf : r.field? key = some f) :
    ∃ g ∈ s.fields, g.name = key ∧ RecordField.Follows s r.blank f g := by
  obtain ⟨i, hi, rfl⟩ := List.mem_iff_getElem.mp (List.mem_of_find?_eq_some hf)
  have hlen : r.fields.length = s.fields.length := h.fields.length_eq
  have hg := h.fields.get hi (hlen ▸ hi)
  have hname : r.fields[i].name = key := by simpa using List.find?_some hf
  exact ⟨_, List.getElem_mem _, hg.name_eq.symm.trans hname, hg⟩

theorem eq_of_name_eq (h : r.Follows s) {g g' : FieldSpelling α} (hg : g ∈ s.fields)
    (hg' : g' ∈ s.fields) (hname : g.name = g'.name) : g = g' :=
  List.inj_on_of_nodup_map h.names_nodup hg hg' hname

theorem field?_eq_none_iff (h : r.Follows s) {key : String} :
    r.field? key = none ↔ key ∉ s.names := by
  rw [← h.names_eq]
  simp [field?, names]

end Follows

/-- What reading entries has done to a field: it stands for what they give, or is as before. -/
def Took (g : FieldSpelling α) (a v : α) : Option Document → Prop
  | some d => g.spelling (g.get v) d
  | none => g.get v = g.get a

theorem Took.of_same {g : FieldSpelling α} {a b v : α} {given : Option Document}
    (hsame : g.get a = g.get b) (h : Took g a v given) : Took g b v given := by
  cases given with
  | none => exact Eq.trans h hsame
  | some d => exact h

namespace Follows

variable {r : Record α} {s : RecordSpelling α}

/-- The induction is on the entries. The record to be read stays the same all along, and the
invariant is that each field holds its value already, or still gets it from the entries left. -/
theorem readEntries_complete (h : r.Follows s) {entries : List (String × Document)} {a v : α}
    (hkeys : (entries.map Prod.fst).Nodup)
    (hknown : s.closed = true → entries.map Prod.fst ⊆ s.names)
    (htook : ∀ g ∈ s.fields, Took g a v ((Document.table entries).get? g.name)) :
    r.readEntries entries a = .ok v := by
  induction entries generalizing a with
  | nil =>
      rw [readEntries, h.ext fun g hg => htook g hg]
  | cons e rest ih =>
      obtain ⟨key, d⟩ := e
      rw [List.map_cons, List.nodup_cons] at hkeys
      have hknown' : s.closed = true → rest.map Prod.fst ⊆ s.names := fun hc =>
        (List.cons_subset.mp (hknown hc)).2
      cases hf : r.field? key with
      | none =>
          have hkey : key ∉ s.names := h.field?_eq_none_iff.mp hf
          have hopen : r.closed = false := by
            rw [h.closed_eq]
            by_contra hc
            exact hkey (hknown (by simpa using hc) (List.mem_cons_self ..))
          rw [readEntries, hf]
          dsimp only
          rw [hopen, if_neg (by simp)]
          refine ih hkeys.2 hknown' fun g hg => ?_
          have hne : key ≠ g.name := fun he => hkey (he ▸ List.mem_map_of_mem hg)
          have hg' := htook g hg
          rwa [Document.get?_cons, if_neg hne] at hg'
      | some f =>
          obtain ⟨g, hg, rfl, hfg⟩ := h.exists_spelling hf
          have hspells := htook g hg
          rw [Document.get?_cons, if_pos rfl] at hspells
          obtain ⟨a', hread, hval⟩ := hfg.complete a hspells
          rw [readEntries_cons_of_field? hf, hread]
          refine ih hkeys.2 hknown' fun g' hg' => ?_
          by_cases hname : g'.name = g.name
          · -- The field just read does not occur again.
            obtain rfl := h.eq_of_name_eq hg' hg hname
            rw [Document.get?_eq_none_iff.mpr hkeys.1]
            exact hval.symm
          · have hother := htook g' hg'
            rw [Document.get?_cons, if_neg (Ne.symm hname)] at hother
            exact hother.of_same (hfg.frame hread g' hg' hname).symm

theorem readEntries_sound (h : r.Follows s) {entries : List (String × Document)} {a v : α}
    (hd : (Document.table entries).Distinct) (hok : r.readEntries entries a = .ok v) :
    (s.closed = true → entries.map Prod.fst ⊆ s.names) ∧
      ∀ g ∈ s.fields, Took g a v ((Document.table entries).get? g.name) := by
  induction entries generalizing a with
  | nil =>
      cases hok
      exact ⟨fun _ => List.nil_subset _, fun g _ => rfl⟩
  | cons e rest ih =>
      obtain ⟨key, d⟩ := e
      have hkeys := hd.keys
      rw [List.map_cons, List.nodup_cons] at hkeys
      have hrest : (Document.table rest).Distinct :=
        .table hkeys.2 fun e he => hd.entries e (List.mem_cons_of_mem _ he)
      cases hf : r.field? key with
      | none =>
          have hkey : key ∉ s.names := h.field?_eq_none_iff.mp hf
          rw [readEntries, hf] at hok
          dsimp only at hok
          split at hok
          · cases hok
          · next hopen =>
              rw [h.closed_eq] at hopen
              refine ⟨fun hc => absurd hc hopen, fun g hg => ?_⟩
              have hne : key ≠ g.name := fun he => hkey (he ▸ List.mem_map_of_mem hg)
              rw [Document.get?_cons, if_neg hne]
              exact (ih hrest hok).2 g hg
      | some f =>
          obtain ⟨g, hg, rfl, hfg⟩ := h.exists_spelling hf
          rw [readEntries_cons_of_field? hf, bind_eq_ok_iff] at hok
          obtain ⟨a', hread, hok⟩ := hok
          obtain ⟨hknown, htook⟩ := ih hrest hok
          refine ⟨fun hc => ?_, fun g' hg' => ?_⟩
          · exact List.cons_subset.mpr ⟨List.mem_map_of_mem hg, hknown hc⟩
          · have hafter := htook g' hg'
            rw [Document.get?_cons]
            by_cases hname : g.name = g'.name
            · obtain rfl := h.eq_of_name_eq hg hg' hname
              rw [Document.get?_eq_none_iff.mpr hkeys.1] at hafter
              have hval : g.get v = g.get a' := hafter
              rw [if_pos rfl]
              change g.spelling (g.get v) d
              rw [hval]
              exact hfg.sound (hd.entries _ (List.mem_cons_self ..)) hread
            · rw [if_neg hname]
              exact hafter.of_same (hfg.frame hread g' hg' (Ne.symm hname))

theorem holds_iff (h : r.Follows s) {g : FieldSpelling α} (hg : g ∈ s.fields) {v : α}
    {given : Option Document} :
    g.Holds v given ↔ Took g r.blank v given ∧ (given = none → g.default?.isSome = true) := by
  obtain ⟨f, _, _, hfg⟩ := h.exists_field hg
  cases given with
  | some d => simp [FieldSpelling.Holds, Took]
  | none =>
      cases hdef : g.default? with
      | none => simp [FieldSpelling.Holds, hdef]
      | some x => simp [FieldSpelling.Holds, Took, hdef, hfg.blank_eq hdef, eq_comm]

theorem missing?_eq_none_iff (h : r.Follows s) {entries : List (String × Document)} :
    r.missing? entries = none ↔
      ∀ g ∈ s.fields, (Document.table entries).get? g.name = none → g.default?.isSome = true := by
  rw [Record.missing?_eq_none_iff]
  refine ⟨?_, ?_⟩
  · intro hgiven g hg hnone
    obtain ⟨f, _, hf, hfg⟩ := h.exists_field hg
    by_contra hdef
    refine Document.get?_eq_none_iff.mp hnone ?_
    rw [← hfg.name_eq]
    exact hgiven f hf (by simpa [hfg.required_eq] using hdef)
  · intro hdef f hf hreq
    obtain ⟨g, hg, hname, hfg⟩ :=
      h.exists_spelling (field?_of_mem (h.names_eq ▸ h.names_nodup) hf)
    by_contra hout
    have hsome := hdef g hg (Document.get?_eq_none_iff.mpr (hname ▸ hout))
    rw [hfg.required_eq] at hreq
    simp [Option.isNone_iff_eq_none.mp hreq] at hsome

theorem ofTable_complete (h : r.Follows s) {entries : List (String × Document)} {v : α}
    (hkeys : (entries.map Prod.fst).Nodup)
    (hknown : s.closed = true → entries.map Prod.fst ⊆ s.names)
    (hgiven : s.GivenBy v (.table entries)) : r.ofTable entries = .ok v := by
  refine ofTable_eq_ok_iff.mpr ⟨?_, ?_⟩
  · exact h.readEntries_complete hkeys hknown fun g hg => ((h.holds_iff hg).mp (hgiven g hg)).1
  · exact h.missing?_eq_none_iff.mpr fun g hg => ((h.holds_iff hg).mp (hgiven g hg)).2

theorem ofTable_sound (h : r.Follows s) {entries : List (String × Document)} {v : α}
    (hd : (Document.table entries).Distinct) (hok : r.ofTable entries = .ok v) :
    (s.closed = true → entries.map Prod.fst ⊆ s.names) ∧ s.GivenBy v (.table entries) := by
  obtain ⟨hread, hmissing⟩ := ofTable_eq_ok_iff.mp hok
  obtain ⟨hknown, htook⟩ := h.readEntries_sound hd hread
  refine ⟨hknown, fun g hg => (h.holds_iff hg).mpr ⟨htook g hg, ?_⟩⟩
  exact h.missing?_eq_none_iff.mp hmissing g hg

theorem nodup_keys_zip (h : r.Follows s) (items : List Document) :
    ((s.names.zip items).map Prod.fst).Nodup := by
  rw [Document.keys_zip]
  exact h.names_nodup.sublist (List.take_sublist _ _)

/-- **A record decoder reads the spellings of the record**, by name and by position. -/
theorem reads (h : r.Follows s) (dialect : Dialect) :
    Decoder.Reads (r.decode dialect) (s.Spells dialect) where
  complete := by
    intro v d hd
    cases hd with
    | table hkeys hknown hgiven => exact h.ofTable_complete hkeys hknown hgiven
    | @array _ style items hfits hgiven =>
        have hlen : r.fields.length = s.fields.length := h.fields.length_eq
        rw [Record.decode, ofArray_eq_ok_iff (h.names_eq ▸ h.names_nodup), h.names_eq, hlen]
        refine ⟨h.ofTable_complete (h.nodup_keys_zip items) ?_ hgiven, hfits⟩
        intro _
        rw [Document.keys_zip]
        exact List.take_subset _ _
  sound := by
    intro v d hd hok
    cases d with
    | table entries =>
        obtain ⟨hknown, hgiven⟩ := h.ofTable_sound hd hok
        exact .table hd.keys hknown hgiven
    | array style items =>
        have hlen : r.fields.length = s.fields.length := h.fields.length_eq
        rw [Record.decode, ofArray_eq_ok_iff (h.names_eq ▸ h.names_nodup), h.names_eq, hlen] at hok
        have hzip : (Document.table (s.names.zip items)).Distinct :=
          .table (h.nodup_keys_zip items) fun e he => hd.items _ (List.of_mem_zip he).2
        exact .array hok.2 (h.ofTable_sound hzip hok.1).2
    | datetime text => exact absurd hok (h.refuses_datetime text v)
    | _ => cases hok

end Follows

end Record

end JavaChecker
