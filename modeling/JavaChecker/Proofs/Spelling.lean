import JavaChecker.Document.Decode
import Mathlib.Data.List.Forall2
import Mathlib.Data.List.Nodup

/-!
# JavaChecker.Proofs.Spelling

How values may be written in documents, and that decoders read exactly what is written that way.

A *spelling* relates values to the documents that stand for them. Spellings are put together as
decoders are, from scalars, lists, choices and records, but they say what a document looks like and
not how it is read. `Decoder.Reads` ties the two together, with one lemma for each way of putting
them together: scalars, lists and choices are here, records in `Records`.

Decoders of tables visit every entry, so a key that stands twice is read twice. Readers never
produce such tables, and `Distinct` documents have none.
-/

namespace JavaChecker

/-! ### Documents without repeated keys -/

namespace Document

/-- Whether a document is neither an array nor a table. -/
def isScalar : Document → Bool
  | .array .. | .table _ => false
  | .null | .boolean _ | .integer _ | .float _ | .string _ | .datetime _ => true

/-- The document is built from scalars of a kind by arrays and by tables that have no key twice. -/
inductive MadeOf (kind : Document → Prop) : Document → Prop where
  | scalar {d : Document} : d.isScalar = true → kind d → MadeOf kind d
  | array {style : ArrayStyle} {items : List Document} :
      (∀ d ∈ items, MadeOf kind d) → MadeOf kind (.array style items)
  | table {entries : List (String × Document)} :
      (entries.map Prod.fst).Nodup → (∀ e ∈ entries, MadeOf kind e.2) →
      MadeOf kind (.table entries)

/-- No table in the document has a key twice. -/
abbrev Distinct (d : Document) : Prop := d.MadeOf fun _ => True

theorem MadeOf.mono {p q : Document → Prop} {d : Document} (h : d.MadeOf p)
    (hpq : ∀ d, p d → q d) : d.MadeOf q := by
  induction h with
  | scalar hs hp => exact .scalar hs (hpq _ hp)
  | array _ ih => exact .array ih
  | table hkeys _ ih => exact .table hkeys ih

theorem MadeOf.distinct {p : Document → Prop} {d : Document} (h : d.MadeOf p) : d.Distinct :=
  h.mono fun _ _ => trivial

theorem MadeOf.items {p : Document → Prop} {style : ArrayStyle} {items : List Document}
    (h : (Document.array style items).MadeOf p) : ∀ d ∈ items, d.MadeOf p := by
  cases h with
  | scalar hs _ => cases hs
  | array h => exact h

theorem MadeOf.keys {p : Document → Prop} {entries : List (String × Document)}
    (h : (Document.table entries).MadeOf p) : (entries.map Prod.fst).Nodup := by
  cases h with
  | scalar hs _ => cases hs
  | table hkeys _ => exact hkeys

theorem MadeOf.entries {p : Document → Prop} {entries : List (String × Document)}
    (h : (Document.table entries).MadeOf p) : ∀ e ∈ entries, e.2.MadeOf p := by
  cases h with
  | scalar hs _ => cases hs
  | table _ h => exact h

/-! ### Entries of a table -/

@[simp] theorem get?_nil (key : String) : (table []).get? key = none := rfl

theorem get?_cons (k key : String) (d : Document) (rest : List (String × Document)) :
    (table ((k, d) :: rest)).get? key = if k = key then some d else (table rest).get? key := by
  by_cases h : k = key
  · simp [get?, h]
  · simp [get?, h]

theorem get?_eq_none_iff {entries : List (String × Document)} {key : String} :
    (table entries).get? key = none ↔ key ∉ entries.map Prod.fst := by
  induction entries with
  | nil => simp
  | cons e rest ih =>
      obtain ⟨k, d⟩ := e
      by_cases h : k = key
      · simp [get?_cons, h]
      · simp [get?_cons, h, ih, Ne.symm h]

theorem mem_of_get? {entries : List (String × Document)} {key : String} {d : Document}
    (h : (table entries).get? key = some d) : (key, d) ∈ entries := by
  obtain ⟨e, he, rfl⟩ := Option.map_eq_some_iff.mp h
  have hkey : e.1 = key := by simpa using List.find?_some he
  exact hkey ▸ List.mem_of_find?_eq_some he

theorem MadeOf.of_get? {p : Document → Prop} {d v : Document} {key : String} (h : d.MadeOf p)
    (hv : d.get? key = some v) : v.MadeOf p := by
  cases d with
  | table entries => exact h.entries _ (mem_of_get? hv)
  | _ => cases hv

theorem get?_eq_some_iff {entries : List (String × Document)}
    (hkeys : (entries.map Prod.fst).Nodup) {key : String} {d : Document} :
    (table entries).get? key = some d ↔ (key, d) ∈ entries := by
  refine ⟨mem_of_get?, ?_⟩
  intro hmem
  obtain ⟨d', hd'⟩ : ∃ d', (table entries).get? key = some d' := by
    refine Option.ne_none_iff_exists'.mp fun hnone => ?_
    exact get?_eq_none_iff.mp hnone (List.mem_map.mpr ⟨_, hmem, rfl⟩)
  -- Two entries with one key are one entry.
  have hsame : (key, d') = (key, d) :=
    List.inj_on_of_nodup_map hkeys (mem_of_get? hd') hmem rfl
  rw [hd', (Prod.mk.inj hsame).2]

end Document

/-! ### Reading what is spelled -/

/-- Which documents a value may be written as. -/
abbrev Spelling (α : Type) := α → Document → Prop

variable {α β : Type}

theorem bind_eq_ok_iff {ε : Type} {x : Except ε α} {f : α → Except ε β} {b : β} :
    x.bind f = .ok b ↔ ∃ a, x = .ok a ∧ f a = .ok b := by
  cases x with
  | error e => simp [Except.bind]
  | ok a => simp [Except.bind]

theorem map_eq_ok_iff {ε : Type} {x : Except ε α} {f : α → β} {b : β} :
    x.map f = .ok b ↔ ∃ a, x = .ok a ∧ f a = b := by
  cases x with
  | error e => simp [Except.map]
  | ok a => simp [Except.map]

/-- The decoder reads what is spelled: every spelling of a value decodes to it, and among
documents without repeated keys nothing else does. -/
structure Decoder.Reads (decode : Decoder α) (spells : Spelling α) : Prop where
  complete : ∀ {v : α} {d : Document}, spells v d → decode d = .ok v
  sound : ∀ {v : α} {d : Document}, d.Distinct → decode d = .ok v → spells v d

theorem Decoder.Reads.of_iff {decode : Decoder α} {spells : Spelling α}
    (h : ∀ v d, decode d = .ok v ↔ spells v d) : Decoder.Reads decode spells :=
  ⟨(h _ _).mpr, fun _ => (h _ _).mp⟩

theorem Decoder.Reads.decode_eq_ok_iff {decode : Decoder α} {spells : Spelling α}
    (h : Decoder.Reads decode spells) {v : α} {d : Document} (hd : d.Distinct) :
    decode d = .ok v ↔ spells v d :=
  ⟨h.sound hd, h.complete⟩

namespace Spelling

/-- Text is spelled as it is. -/
def string : Spelling String := fun s d => d = .string s

/-- Truth values are spelled as they are. -/
def boolean : Spelling Bool := fun b d => d = .boolean b

/-- Numbers below a limit are spelled as integers. -/
def natural (limit : Nat) : Spelling Nat := fun n d => n < limit ∧ d = .natural n

/-- A list is spelled as an array of spellings of its elements. -/
def list (item : Spelling α) : Spelling (List α) := fun vs d =>
  ∃ style items, d = .array style items ∧ List.Forall₂ item vs items

/-- Nothing is spelled as `null`, and a value as it is. -/
def nullable (value : Spelling α) : Spelling (Option α)
  | none, d => d = .null
  | some v, d => value v d

end Spelling

theorem reads_text (expected : String) : Decoder.Reads (Decoder.text expected) .string :=
  .of_iff fun s d => by cases d <;> simp [Decoder.text, Spelling.string, eq_comm]

theorem reads_string : Decoder.Reads Decoder.string .string := reads_text "a string"

theorem reads_path : Decoder.Reads Decoder.path .string := reads_text "path string"

theorem reads_boolean : Decoder.Reads Decoder.boolean .boolean :=
  .of_iff fun b d => by cases d <;> simp [Decoder.boolean, Spelling.boolean, eq_comm]

theorem reads_natural (limit : Nat) (kind : String) :
    Decoder.Reads (Decoder.natural limit kind) (.natural limit) where
  complete := by
    intro n d h
    obtain ⟨hn, rfl⟩ := h
    have hbounds : (0 : Int) ≤ n ∧ (n : Int) < limit := by omega
    simp only [Decoder.natural, if_pos hbounds, Int.toNat_natCast]
  sound := by
    intro n d _ h
    cases d with
    | integer m =>
        simp only [Decoder.natural] at h
        split at h
        · next hbounds =>
            cases h
            refine ⟨by omega, ?_⟩
            rw [Document.natural, Int.toNat_of_nonneg hbounds.1]
        · cases h
    | _ => cases h

theorem mapM_eq_ok_iff {item : Decoder α} {items : List Document} {vs : List α} :
    items.mapM item = .ok vs ↔ List.Forall₂ (fun v d => item d = .ok v) vs items := by
  induction items generalizing vs with
  | nil =>
      rw [List.forall₂_nil_right_iff, List.mapM_nil]
      exact ⟨fun h => (Except.ok.inj h).symm, fun h => congrArg Except.ok h.symm⟩
  | cons d items ih =>
      rw [List.mapM_cons, List.forall₂_cons_right_iff]
      change (item d).bind (fun v => (items.mapM item).bind fun vs => .ok (v :: vs)) = _ ↔ _
      simp only [bind_eq_ok_iff, ih]
      refine ⟨?_, ?_⟩
      · intro h
        obtain ⟨v, hv, vs', hvs, hcons⟩ := h
        exact ⟨v, vs', hv, hvs, (Except.ok.inj hcons).symm⟩
      · intro h
        obtain ⟨v, vs', hv, hvs, hcons⟩ := h
        exact ⟨v, hv, vs', hvs, congrArg Except.ok hcons.symm⟩

theorem reads_list {item : Decoder α} {spells : Spelling α} (h : Decoder.Reads item spells) :
    Decoder.Reads (Decoder.list item) (.list spells) where
  complete := by
    intro vs d hd
    obtain ⟨style, items, rfl, hitems⟩ := hd
    exact mapM_eq_ok_iff.mpr (hitems.imp fun _ _ hv => h.complete hv)
  sound := by
    intro vs d hd hok
    cases d with
    | array style items =>
        have hread := mapM_eq_ok_iff.mp hok
        refine ⟨style, items, rfl, ?_⟩
        rw [List.forall₂_iff_get] at hread ⊢
        refine ⟨hread.1, ?_⟩
        intro i hi hi'
        exact h.sound (hd.items _ (List.get_mem items ⟨i, hi'⟩)) (hread.2 i hi hi')
    | _ => cases hok

theorem reads_nullable {value : Decoder α} {spells : Spelling α} (h : Decoder.Reads value spells)
    (hnull : ∀ v, ¬ spells v .null) :
    Decoder.Reads (Decoder.nullable value) (.nullable spells) where
  complete := by
    intro o d hd
    cases o with
    | none =>
        cases hd
        rfl
    | some v =>
        have hv : value d = .ok v := h.complete hd
        cases d with
        | null => exact absurd hd (hnull v)
        | _ => simp only [Decoder.nullable, hv, Except.map]
  sound := by
    intro o d hd hok
    by_cases hdn : d = .null
    · subst hdn
      cases hok
      rfl
    · have hmap : (value d).map some = .ok o := by
        cases d with
        | null => exact absurd rfl hdn
        | _ => exact hok
      obtain ⟨v, hv, rfl⟩ := map_eq_ok_iff.mp hmap
      exact h.sound hd hv

/-! ### Choices -/

namespace Variant

/-- What may stand under the name of a variant that carries nothing. -/
inductive Nothing : Dialect → Document → Prop where
  | null : Nothing .json .null
  | emptyArray {style : ArrayStyle} : Nothing .toml (.array style [])
  | emptyTable : Nothing .toml (.table [])

/-- The spellings of a variant that carries nothing: its name, or a table with the name as its
only key. -/
inductive Named (dialect : Dialect) (name : String) : Document → Prop where
  | word : Named dialect name (.string name)
  | key {d : Document} : Nothing dialect d → Named dialect name (.table [(name, d)])

theorem emptyJson_eq_ok_iff {d : Document} {u : Unit} :
    emptyJson d = .ok u ↔ Nothing .json d := by
  refine ⟨?_, ?_⟩
  · intro h
    cases d with
    | null => exact .null
    | _ => cases h
  · intro h
    cases h
    rfl

theorem emptyToml_eq_ok_iff {d : Document} {u : Unit} :
    emptyToml d = .ok u ↔ Nothing .toml d := by
  refine ⟨?_, ?_⟩
  · intro h
    cases d with
    | array style items =>
        cases items with
        | nil => exact .emptyArray
        | cons => cases h
    | table entries =>
        cases entries with
        | nil => exact .emptyTable
        | cons => cases h
    | _ => cases h
  · intro h
    cases h with
    | emptyArray => rfl
    | emptyTable => rfl

/-- The value that a variant has with the document under its name, if there is one. -/
def Gives (dialect : Dialect) (v : Variant α) (given : Option Document) (a : α) : Prop :=
  match v.payload with
  | .unit b => b = a ∧ ∀ d ∈ given, Nothing dialect d
  | .carries value => ∃ d, given = some d ∧ value d = .ok a

theorem pick_eq_ok_iff {dialect : Dialect} {variants : List (Variant α)} {name : String}
    {v : Variant α} (hfind : variants.find? (·.name == name) = some v) {given : Option Document}
    {a : α} : pick dialect variants name given = .ok a ↔ v.Gives dialect given a := by
  unfold pick Gives
  rw [hfind]
  cases hp : v.payload with
  | carries value => cases given <;> simp [hp]
  | unit b =>
      cases given with
      | none => simp [hp]
      | some d =>
          cases dialect with
          | json => simp [hp, map_eq_ok_iff, emptyJson_eq_ok_iff, and_comm]
          | toml => simp [hp, map_eq_ok_iff, emptyToml_eq_ok_iff, and_comm]

/-- What is picked is given by a variant of that name. -/
theorem exists_of_pick {dialect : Dialect} {variants : List (Variant α)} {name : String}
    {given : Option Document} {a : α} (h : pick dialect variants name given = .ok a) :
    ∃ v ∈ variants, v.name = name ∧ v.Gives dialect given a := by
  cases hv : variants.find? (·.name == name) with
  | none => simp [pick, hv] at h
  | some v =>
      refine ⟨v, List.mem_of_find?_eq_some hv, ?_, (pick_eq_ok_iff hv).mp h⟩
      simpa using List.find?_some hv

/-- A choice is the name of a variant, or a table with the name as its only key. -/
theorem decode_eq_ok_iff {dialect : Dialect} {variants : List (Variant α)} {d : Document} {a : α} :
    decode dialect variants d = .ok a ↔
      (∃ name, d = .string name ∧ pick dialect variants name none = .ok a) ∨
      (∃ name e, d = .table [(name, e)] ∧ pick dialect variants name (some e) = .ok a) := by
  cases d with
  | string name => simp [decode]
  | table entries =>
      cases entries with
      | nil => cases dialect <;> simp [decode]
      | cons e rest =>
          obtain ⟨name, d⟩ := e
          cases rest with
          | nil => simp [decode]
          | cons => cases dialect <;> simp [decode]
  | _ => cases dialect <;> simp [decode]

end Variant

/-- A value that has a name is spelled as a variant that carries nothing. -/
def Spelling.named (dialect : Dialect) (name : α → String) : Spelling α := fun v =>
  Variant.Named dialect (name v)

/-- A choice among named values reads their spellings, if no two of them have one name. -/
theorem reads_named (dialect : Dialect) {values : List α} {name : α → String}
    (hall : ∀ v, v ∈ values) (hinj : ∀ v w, name v = name w → v = w) :
    Decoder.Reads (Variant.decode dialect (values.map fun v => .plain (name v) v))
      (.named dialect name) where
  complete := by
    intro v d hd
    have hfind : (values.map fun v => Variant.plain (name v) v).find? (·.name == name v) =
        some (.plain (name v) v) := by
      rw [List.find?_map]
      cases hw : values.find? ((fun u => u.name == name v) ∘ fun v => Variant.plain (name v) v) with
      | none => simpa [Variant.plain] using List.find?_eq_none.mp hw v (hall v)
      | some w =>
          have hname : name w = name v := by
            simpa [Variant.plain] using List.find?_some hw
          rw [hinj w v hname]
          rfl
    refine Variant.decode_eq_ok_iff.mpr ?_
    cases hd with
    | word =>
        refine .inl ⟨name v, rfl, ?_⟩
        exact (Variant.pick_eq_ok_iff hfind).mpr ⟨rfl, by simp⟩
    | @key e he =>
        refine .inr ⟨name v, e, rfl, ?_⟩
        exact (Variant.pick_eq_ok_iff hfind).mpr ⟨rfl, by simpa using he⟩
  sound := by
    intro v d _ hok
    -- Whichever name stands in the document, the variant found under it is that of `v`.
    have hpick : ∀ {key : String} {given : Option Document},
        Variant.pick dialect (values.map fun v => .plain (name v) v) key given = .ok v →
        key = name v ∧ ∀ e ∈ given, Variant.Nothing dialect e := by
      intro key given h
      obtain ⟨u, hu, hkey, hgives⟩ := Variant.exists_of_pick h
      obtain ⟨w, _, rfl⟩ := List.mem_map.mp hu
      obtain ⟨rfl, hgiven⟩ := hgives
      exact ⟨hkey.symm, hgiven⟩
    obtain ⟨key, rfl, h⟩ | ⟨key, e, rfl, h⟩ := Variant.decode_eq_ok_iff.mp hok
    · obtain ⟨rfl, _⟩ := hpick h
      exact .word
    · obtain ⟨rfl, hgiven⟩ := hpick h
      exact .key (hgiven e rfl)

end JavaChecker
