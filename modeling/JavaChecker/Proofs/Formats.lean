import JavaChecker.Config.Load
import JavaChecker.Proofs.Codec

/-!
# JavaChecker.Proofs.Formats

One configuration in two formats.

A document that is written in JSON and in TOML arrives in two trees: the readers order the keys of
tables differently, and only TOML can write an array under headers. `Document.Alike` relates such
trees. What a document spells does not depend on the difference, and this goes through every way
of putting spellings together (`Spelling.OrderFree`).

The dialects themselves part in two places only: where an array has more elements than the record
has fields, and where a choice is written as a table. `Config.DialectFree` documents have neither,
and both dialects read the same configuration from them, or none.
-/

namespace JavaChecker

variable {α : Type}

/-! ### Documents that differ in the order of keys -/

namespace Document

/-- The documents are the same but for the order of the keys of tables and the style of arrays. -/
inductive Alike : Document → Document → Prop where
  | scalar {d : Document} : d.isScalar = true → Alike d d
  | array {style style' : ArrayStyle} {items items' : List Document} :
      items.length = items'.length →
      (∀ (i : Nat) d d', items[i]? = some d → items'[i]? = some d' → Alike d d') →
      Alike (.array style items) (.array style' items')
  | table {entries entries' : List (String × Document)} :
      (entries.map Prod.fst).Perm (entries'.map Prod.fst) →
      (∀ key d d', (key, d) ∈ entries → (key, d') ∈ entries' → Alike d d') →
      Alike (.table entries) (.table entries')

namespace Alike

theorem symm {d d' : Document} (h : d.Alike d') : d'.Alike d := by
  induction h with
  | scalar hs => exact .scalar hs
  | array hlen _ ih => exact .array hlen.symm fun i d' d hd' hd => ih i d d' hd hd'
  | table hkeys _ ih => exact .table hkeys.symm fun key d' d hd' hd => ih key d d' hd hd'

theorem refl {d : Document} (h : d.Distinct) : d.Alike d := by
  induction h with
  | scalar hs _ => exact .scalar hs
  | array _ ih =>
      refine .array rfl fun i d d' hd hd' => ?_
      obtain rfl := Option.some.inj (hd.symm.trans hd')
      exact ih d (List.mem_of_getElem? hd)
  | table hkeys _ ih =>
      refine .table (.refl _) fun key d d' hd hd' => ?_
      have hsame : (key, d) = (key, d') := List.inj_on_of_nodup_map hkeys hd hd' rfl
      obtain rfl := (Prod.mk.inj hsame).2
      exact ih _ hd

theorem of_perm {d : Document} {entries entries' : List (String × Document)}
    (h : d.Alike (.table entries)) (hperm : entries.Perm entries') : d.Alike (.table entries') := by
  cases h with
  | scalar hs => cases hs
  | table hkeys hentries =>
      exact .table (hkeys.trans (hperm.map _)) fun key d d' hd hd' =>
        hentries key d d' hd (hperm.mem_iff.mpr hd')

theorem eq_of_isScalar {d d' : Document} (h : d.Alike d') (hs : d.isScalar = true) : d' = d := by
  cases h with
  | scalar _ => rfl
  | array _ _ => cases hs
  | table _ _ => cases hs

theorem madeOf {p : Document → Prop} {d d' : Document} (h : d.Alike d') (hd : d.MadeOf p) :
    d'.MadeOf p := by
  induction h with
  | scalar _ => exact hd
  | @array _ _ items items' hlen _ ih =>
      refine .array fun d' hd' => ?_
      obtain ⟨i, hi⟩ := List.mem_iff_getElem?.mp hd'
      obtain ⟨d, hget⟩ : ∃ d, items[i]? = some d := by
        have hlt : i < items.length := hlen ▸ (List.getElem?_eq_some_iff.mp hi).1
        exact ⟨_, List.getElem?_eq_getElem hlt⟩
      exact ih i d d' hget hi (hd.items d (List.mem_of_getElem? hget))
  | @table entries entries' hkeys _ ih =>
      refine .table (hkeys.nodup_iff.mp hd.keys) fun e he => ?_
      obtain ⟨key, d'⟩ := e
      have hkey : key ∈ entries.map Prod.fst :=
        hkeys.mem_iff.mpr (List.mem_map.mpr ⟨_, he, rfl⟩)
      obtain ⟨⟨_, d⟩, hmem, rfl⟩ := List.mem_map.mp hkey
      exact ih _ d d' hmem he (hd.entries _ hmem)

/-- Alike tables have alike documents under each key. -/
theorem get? {entries entries' : List (String × Document)}
    (h : (Document.table entries).Alike (.table entries')) (key : String) :
    Option.Rel Alike ((Document.table entries).get? key) ((Document.table entries').get? key) := by
  cases h with
  | scalar hs => cases hs
  | table hkeys hentries =>
      cases hd : (Document.table entries).get? key with
      | none =>
          have hout : key ∉ entries'.map Prod.fst := fun hin =>
            get?_eq_none_iff.mp hd (hkeys.mem_iff.mpr hin)
          rw [get?_eq_none_iff.mpr hout]
          exact .none
      | some d =>
          have hin : key ∈ entries'.map Prod.fst :=
            hkeys.mem_iff.mp (List.mem_map.mpr ⟨_, mem_of_get? hd, rfl⟩)
          obtain ⟨d', hd'⟩ := Option.ne_none_iff_exists'.mp fun hnone =>
            get?_eq_none_iff.mp hnone hin
          rw [hd']
          exact .some (hentries key d d' (mem_of_get? hd) (mem_of_get? hd'))

theorem zip {items items' : List Document} {names : List String} (hnames : names.Nodup)
    (hlen : items.length = items'.length)
    (hitems : ∀ (i : Nat) d d', items[i]? = some d → items'[i]? = some d' → Alike d d') :
    (Document.table (names.zip items)).Alike (.table (names.zip items')) := by
  refine .table (by rw [keys_zip, keys_zip, hlen]) fun key d d' hd hd' => ?_
  obtain ⟨i, hi⟩ := List.mem_iff_getElem?.mp hd
  obtain ⟨j, hj⟩ := List.mem_iff_getElem?.mp hd'
  rw [List.getElem?_zip_eq_some] at hi hj
  -- A name has one position.
  have hij : i = j :=
    (List.getElem?_inj (List.getElem?_eq_some_iff.mp hi.1).1 hnames).mp (hi.1.trans hj.1.symm)
  exact hitems i d d' hi.2 (hij ▸ hj.2)

/-- Alike documents give alike documents for each field. -/
theorem given? {names : List String} (hnames : names.Nodup) {d d' : Document} (h : d.Alike d')
    (name : String) : Option.Rel Alike (d.given? names name) (d'.given? names name) := by
  cases h with
  | scalar hs =>
      cases d with
      | array _ _ | table _ => cases hs
      | _ => exact .none
  | array hlen hitems => exact (zip hnames hlen hitems).get? name
  | table hkeys hentries => exact (Alike.table hkeys hentries).get? name

end Alike

theorem MadeOf.of_given? {p : Document → Prop} {names : List String} {d e : Document}
    {name : String} (h : d.MadeOf p) (he : d.given? names name = some e) : e.MadeOf p := by
  cases d with
  | table entries => exact h.of_get? he
  | array style items => exact h.items _ (List.of_mem_zip (mem_of_get? he)).2
  | _ => cases he

end Document

/-! ### Spellings do not depend on the order of keys -/

/-- What the spelling says of a document, it says of every document that is alike. -/
def Spelling.OrderFree (spells : Spelling α) : Prop :=
  ∀ v d d', d.Alike d' → d'.Distinct → spells v d → spells v d'

namespace Spelling

theorem orderFree_string : OrderFree string := by
  intro s d d' halike _ h
  subst h
  exact halike.eq_of_isScalar rfl

theorem orderFree_boolean : OrderFree boolean := by
  intro b d d' halike _ h
  subst h
  exact halike.eq_of_isScalar rfl

theorem orderFree_natural (limit : Nat) : OrderFree (natural limit) := by
  intro n d d' halike _ h
  obtain ⟨hn, rfl⟩ := h
  exact ⟨hn, halike.eq_of_isScalar rfl⟩

theorem orderFree_nullable {value : Spelling α} (h : OrderFree value) :
    OrderFree (nullable value) := by
  intro o d d' halike hd' hspells
  cases o with
  | none =>
      cases hspells
      exact halike.eq_of_isScalar rfl
  | some v => exact h v d d' halike hd' hspells

end Spelling

theorem Variant.Nothing.of_alike {dialect : Dialect} {d d' : Document} (halike : d.Alike d')
    (h : Nothing dialect d) : Nothing dialect d' := by
  cases h with
  | null => exact halike.eq_of_isScalar rfl ▸ .null
  | emptyArray =>
      cases halike with
      | scalar hs => exact .emptyArray
      | array hlen _ => exact List.eq_nil_of_length_eq_zero hlen.symm ▸ .emptyArray
  | emptyTable =>
      cases halike with
      | scalar hs => exact .emptyTable
      | table hkeys _ => exact List.map_eq_nil_iff.mp hkeys.symm.eq_nil ▸ .emptyTable

theorem Spelling.orderFree_named (dialect : Dialect) (name : α → String) :
    OrderFree (named dialect name) := by
  intro v d d' halike _ h
  cases h with
  | word => exact halike.eq_of_isScalar rfl ▸ .word
  | @key e he =>
      cases halike with
      | scalar hs => exact .key he
      | @table _ entries' hkeys hentries =>
          -- The other table has the name as its only key, too.
          obtain ⟨⟨key, e'⟩, rfl, rfl⟩ :=
            List.map_eq_singleton_iff.mp (List.perm_singleton.mp hkeys.symm)
          exact .key (he.of_alike (hentries _ e e' (List.mem_singleton_self _)
            (List.mem_singleton_self _)))

theorem FieldSpelling.Holds.of_alike {f : FieldSpelling α} (hf : f.spelling.OrderFree) {v : α}
    {given given' : Option Document} (halike : Option.Rel Document.Alike given given')
    (hd' : ∀ d' ∈ given', d'.Distinct) (h : f.Holds v given) : f.Holds v given' := by
  cases halike with
  | none => exact h
  | some halike => exact hf _ _ _ halike (hd' _ rfl) h

theorem RecordSpelling.orderFree {s : RecordSpelling α} (hnames : s.names.Nodup)
    (hfields : ∀ f ∈ s.fields, f.spelling.OrderFree) (dialect : Dialect) :
    Spelling.OrderFree (s.Spells dialect) := by
  intro v d d' halike hd' h
  have hgiven : s.GivenBy v d → s.GivenBy v d' := fun hg f hf =>
    (hg f hf).of_alike (hfields f hf) (halike.given? hnames f.name) fun _ he => hd'.of_given? he
  cases h with
  | @table _ entries hkeys hknown hg =>
      cases halike with
      | scalar hs => cases hs
      | @table _ entries' hperm _ =>
          refine .table (hperm.nodup_iff.mp hkeys) (fun hc key hkey => ?_) (hgiven hg)
          exact hknown hc (hperm.mem_iff.mpr hkey)
  | @array _ style items hfits hg =>
      cases halike with
      | scalar hs => cases hs
      | @array _ style' _ items' hlen _ => exact .array (fun hj => hlen ▸ hfits hj) (hgiven hg)

namespace Config

theorem orderFree (dialect : Dialect) :
    Spelling.OrderFree ((spelling dialect).Spells dialect) := by
  refine RecordSpelling.orderFree (follows dialect).names_nodup ?_ dialect
  intro f hf
  simp only [spelling, List.mem_cons, List.not_mem_nil, or_false] at hf
  rcases hf with rfl | rfl
  · refine RecordSpelling.orderFree (CheckOptions.follows dialect).names_nodup ?_ dialect
    intro f hf
    simp only [CheckOptions.spelling, List.mem_cons, List.not_mem_nil, or_false] at hf
    subst hf
    exact Spelling.orderFree_named dialect Policy.word
  · refine RecordSpelling.orderFree LoggingConfig.follows.names_nodup ?_ dialect
    intro f hf
    simp only [LoggingConfig.spelling, List.mem_cons, List.not_mem_nil, or_false] at hf
    rcases hf with rfl | rfl | rfl | rfl | rfl
    · exact Spelling.orderFree_string
    · exact Spelling.orderFree_boolean
    · exact Spelling.orderFree_boolean
    · exact Spelling.orderFree_nullable Spelling.orderFree_string
    · exact Spelling.orderFree_natural _

theorem reads (dialect : Dialect) :
    Decoder.Reads (decode dialect) ((spelling dialect).Spells dialect) :=
  (follows dialect).reads dialect

/-- **The order of keys does not matter**: alike documents are the same configuration. -/
theorem decode_eq_ok_iff_of_alike {dialect : Dialect} {d d' : Document} (hd : d.Distinct)
    (halike : d.Alike d') {c : Config} : decode dialect d = .ok c ↔ decode dialect d' = .ok c := by
  have hd' : d'.Distinct := halike.madeOf hd
  rw [(reads dialect).decode_eq_ok_iff hd, (reads dialect).decode_eq_ok_iff hd']
  exact ⟨orderFree dialect c d d' halike hd', orderFree dialect c d' d halike.symm hd⟩

end Config

/-! ### Where the dialects agree -/

/-- The document, if it is an array, has at most that many elements. -/
def Document.Fits (n : Nat) (d : Document) : Prop :=
  ∀ style items, d = .array style items → items.length ≤ n

/-- Two dialects spell a record alike in a document without surplus elements, if they spell the
fields alike that it gives. -/
theorem RecordSpelling.Spells.of_dialect {s s' : RecordSpelling α} {dialect dialect' : Dialect}
    {v : α} {d : Document} (h : s.Spells dialect v d) (hfits : d.Fits s'.fields.length)
    (hclosed : s.closed = s'.closed) (hnames : s.names = s'.names)
    (hfields : s.GivenBy v d → s'.GivenBy v d) : s'.Spells dialect' v d := by
  cases h with
  | table hkeys hknown hgiven =>
      exact .table hkeys (fun hc => hnames ▸ hknown (hclosed.trans hc)) (hfields hgiven)
  | array _ hgiven => exact .array (fun _ => hfits _ _ rfl) (hfields hgiven)

/-- A name that is not given as a table is a word in every dialect. -/
theorem Variant.Named.of_dialect {dialect dialect' : Dialect} {name : String} {d : Document}
    (hd : ∀ entries, d ≠ .table entries) (h : Named dialect name d) : Named dialect' name d := by
  cases h with
  | word => exact .word
  | key _ => exact absurd rfl (hd _)

theorem FieldSpelling.Holds.imp {f f' : FieldSpelling α} {v : α} {given : Option Document}
    (h : f.Holds v given) (hnone : f.Holds v none → f'.Holds v none)
    (hsome : ∀ d, given = some d → f.Holds v (some d) → f'.Holds v (some d)) :
    f'.Holds v given := by
  cases given with
  | none => exact hnone h
  | some d => exact hsome d rfl h

theorem CheckOptions.spells_of_dialect {dialect dialect' : Dialect} {o : CheckOptions}
    {d : Document} (hfits : d.Fits 1)
    (hword : ∀ entries, d.given? ["recursion"] "recursion" ≠ some (.table entries))
    (h : (spelling dialect).Spells dialect o d) : (spelling dialect').Spells dialect' o d := by
  refine h.of_dialect hfits rfl rfl fun hgiven f hf => ?_
  simp only [spelling, List.mem_cons, List.not_mem_nil, or_false] at hf
  subst hf
  refine (hgiven _ (List.mem_singleton_self _)).imp id fun e hrec hspells => ?_
  exact Variant.Named.of_dialect (fun entries he => hword entries (he ▸ hrec)) hspells

theorem LoggingConfig.spells_of_dialect {dialect dialect' : Dialect} {c : LoggingConfig}
    {d : Document} (hfits : d.Fits 5) (h : spelling.Spells dialect c d) :
    spelling.Spells dialect' c d :=
  h.of_dialect hfits rfl rfl id

namespace Config

/-- The parts of a configuration in declaration order. -/
def parts : List String := ["checker", "logging"]

/-- No array in the place of a record has more elements than the record has fields, and the policy
of a check is not given as a table, whether by name or by position. -/
structure DialectFree (d : Document) : Prop where
  fits : d.Fits 2
  checker_fits : ∀ {o : Document}, d.given? parts "checker" = some o → o.Fits 1
  logging_fits : ∀ {l : Document}, d.given? parts "logging" = some l → l.Fits 5
  recursion_not_table : ∀ {o : Document}, d.given? parts "checker" = some o →
    ∀ entries, o.given? ["recursion"] "recursion" ≠ some (.table entries)

theorem spells_of_dialect {dialect dialect' : Dialect} {c : Config} {d : Document}
    (hd : DialectFree d) (h : (spelling dialect).Spells dialect c d) :
    (spelling dialect').Spells dialect' c d := by
  refine h.of_dialect hd.fits rfl rfl fun hgiven f hf => ?_
  simp only [spelling, List.mem_cons, List.not_mem_nil, or_false] at hf
  rcases hf with rfl | rfl
  · refine (hgiven _ (List.mem_cons_self ..)).imp id fun o ho hspells => ?_
    exact CheckOptions.spells_of_dialect (hd.checker_fits ho) (hd.recursion_not_table ho) hspells
  · refine (hgiven _ (List.mem_cons_of_mem _ (List.mem_cons_self ..))).imp id fun l hl hspells => ?_
    exact LoggingConfig.spells_of_dialect (hd.logging_fits hl) hspells

theorem value_load_eq_ok_iff {text : String} {d : Document} (h : Toml.parse? text = some d)
    {c : Config} : (load text).value = .ok c ↔ decode .toml d = .ok c := by
  have htext : ofText text = (decode .toml d).mapError .invalid := by
    rw [ofText, h]
  rw [load, htext]
  cases decode .toml d with
  | error p => simp [Except.mapError]
  | ok c' => simp [Except.mapError]

/-- **Both formats read one configuration**: a document whose arrays fit the records they stand for
and whose policy is not a table decodes from JSON exactly when it decodes from TOML, and then to
the same configuration. -/
theorem json_and_toml_readings_agree {json toml : Document} (hdistinct : json.Distinct)
    (halike : json.Alike toml) (hfree : DialectFree json) (c : Config) :
    (decode .json json = .ok c ↔ decode .toml toml = .ok c) ∧
      ∀ text, Toml.parse? text = some toml →
        ((load text).value = .ok c ↔ decode .json json = .ok c) := by
  have hdialects : decode .json json = .ok c ↔ decode .toml json = .ok c := by
    rw [(reads .json).decode_eq_ok_iff hdistinct, (reads .toml).decode_eq_ok_iff hdistinct]
    exact ⟨spells_of_dialect hfree, spells_of_dialect hfree⟩
  have hboth : decode .json json = .ok c ↔ decode .toml toml = .ok c :=
    hdialects.trans (decode_eq_ok_iff_of_alike hdistinct halike)
  refine ⟨hboth, fun text htext => ?_⟩
  exact (value_load_eq_ok_iff htext).trans hboth.symm

/-- A configuration with its policy given by position. -/
def positional : Document := .table [
  ("checker", .list [.string "constructor-args-only"]),
  ("logging", .table [("buffer_lines", .natural 5), ("level", .string "debug")])]

/-- The same configuration with its parts the other way round. -/
def positionalReversed : Document := .table [
  ("logging", .table [("buffer_lines", .natural 5), ("level", .string "debug")]),
  ("checker", .list [.string "constructor-args-only"])]

theorem positional_distinct : positional.Distinct := by
  refine .table (by decide) fun e he => ?_
  simp only [List.mem_cons, List.not_mem_nil, or_false] at he
  rcases he with rfl | rfl
  · refine .array fun d hd => ?_
    obtain rfl := List.mem_singleton.mp hd
    exact .scalar rfl trivial
  · refine .table (by decide) fun e he => ?_
    simp only [List.mem_cons, List.not_mem_nil, or_false] at he
    rcases he with rfl | rfl <;> exact .scalar rfl trivial

theorem positional_alike : positional.Alike positionalReversed := by
  refine (Document.Alike.refl positional_distinct).of_perm ?_
  exact List.Perm.swap ..

theorem positional_dialectFree : DialectFree positional where
  fits := by
    intro style items h
    cases h
  checker_fits := by
    intro o ho style items h
    subst h
    cases ho
    decide
  logging_fits := by
    intro l hl style items h
    subst h
    cases hl
  recursion_not_table := by
    intro o ho entries h
    cases ho
    cases h

/-- The policy by position is read from JSON because it is read from TOML. -/
theorem positional_readings_agree :
    positional.Distinct ∧ positional.Alike positionalReversed ∧ DialectFree positional ∧
      decode .json positional = .ok
        { checker := { recursion := .constructorArgsOnly },
          logging := { level := "debug", bufferLines := 5 } } :=
  ⟨positional_distinct, positional_alike, positional_dialectFree,
    (json_and_toml_readings_agree positional_distinct positional_alike positional_dialectFree
      _).1.mpr rfl⟩

end Config

end JavaChecker
