import JavaChecker.Proofs.Updates
import Mathlib.Data.List.Nodup

/-!
# JavaChecker.Proofs.TwoPhase

Classes that mention each other are numbered first and defined afterwards. All names are interned,
then each class is defined behind its identifier, in whatever order. The other way to the same table
is to add the classes one after the other.

Both come down to storing definitions in the table with the interned names (`storeAll`). Storing a
definition changes neither names nor the number of classes, so it can be put off until everything is
interned; this is all that adding does (`forEach_add`). Where the class behind an identifier has the
name already, defining it is storing it (`defineAll_eq_ok`), and definitions behind different
identifiers can be stored in any order (`storeAll_perm`).
-/

namespace JavaChecker

namespace ClassTable

variable {t t' : ClassTable} {id : ClassId} {c : ClassDef}

/-! ### Runs of one kind of operation -/

/-- Carry out an operation that gives identifiers for all elements of a list, in order. There is no
answer if there is none for one of them. -/
def forEach {α : Type} (t : ClassTable) (op : ClassTable → α → Option (ClassTable × ClassId)) :
    List α → Option (ClassTable × List ClassId)
  | [] => some (t, [])
  | a :: as =>
    (op t a).bind fun r => (forEach r.1 op as).map fun rs => (rs.1, r.2 :: rs.2)

/-- Define the classes behind their identifiers, in order. The first that is refused ends it. -/
def defineAll (t : ClassTable) (order : List (ClassId × ClassDef)) :
    EStateM.Result DefineError ClassTable Unit :=
  EStateM.run (forM order fun p => redefine p.1 p.2) t

/-- Put the definitions at their identifiers, in order, without looking at names. -/
def storeAll (t : ClassTable) (order : List (ClassId × ClassDef)) : ClassTable :=
  order.foldl (fun t p => t.store p.1 p.2) t

/-- How many of the names stand for nothing yet. -/
def unknownNames (t : ClassTable) (names : List String) : Nat :=
  names.countP fun name => (t.lookup? name).isNone

/-- A run with an answer is a first step and a run of the others. -/
theorem exists_of_forEach_cons {α : Type} {op : ClassTable → α → Option (ClassTable × ClassId)}
    {a : α} {as : List α} {ids : List ClassId} (h : t.forEach op (a :: as) = some (t', ids)) :
    ∃ t₁ id rest, op t a = some (t₁, id) ∧ t₁.forEach op as = some (t', rest) ∧
      ids = id :: rest := by
  simp only [forEach, Option.bind_eq_some_iff, Option.map_eq_some_iff] at h
  obtain ⟨⟨t₁, id⟩, hfirst, ⟨t₂, rest⟩, hrest, hpair⟩ := h
  cases hpair
  exact ⟨t₁, id, rest, hfirst, hrest, rfl⟩

/-! ### Interning -/

theorem intern_of_known {name : String} (h : t.lookup? name = some id) :
    t.intern name = some (t, id) := by
  simp [intern, h]

theorem lookup?_of_intern {name : String} (h : t.intern name = some (t', id)) (other : String) :
    t'.lookup? other = if other = name then some id else t.lookup? other := by
  unfold intern at h
  cases hl : t.lookup? name with
  | some known =>
      simp only [hl] at h
      cases h
      by_cases hother : other = name
      · rw [if_pos hother, hother, hl]
      · rw [if_neg hother]
  | none =>
      simp only [hl, Option.map_eq_some_iff] at h
      obtain ⟨next, -, hpair⟩ := h
      cases hpair
      exact NameIndex.find?_insert ..

/-- An interned name stands for its identifier, and what was known stays known. -/
theorem lookup?_of_forEach_intern {names : List String} {ids : List ClassId}
    (h : t.forEach intern names = some (t', ids)) :
    (∀ {other x}, t.lookup? other = some x → t'.lookup? other = some x) ∧
      names.map t'.lookup? = ids.map some := by
  induction names generalizing t ids with
  | nil =>
      cases h
      exact ⟨fun hx => hx, rfl⟩
  | cons name names ih =>
      obtain ⟨t₁, id, rest, hintern, hrest, rfl⟩ := exists_of_forEach_cons h
      obtain ⟨hkept, hnames⟩ := ih hrest
      have hlookup := lookup?_of_intern hintern
      refine ⟨?_, ?_⟩
      · intro other x hx
        apply hkept
        by_cases hother : other = name
        · -- A known name is interned as what it is.
          subst hother
          rw [intern_of_known hx] at hintern
          cases hintern
          exact hx
        · rw [hlookup, if_neg hother, hx]
      · simp [hnames, hkept (by rw [hlookup, if_pos rfl] : t₁.lookup? name = some id)]

theorem Consistent.forEach_intern (h : t.Consistent) {names : List String} {ids : List ClassId}
    (hrun : t.forEach intern names = some (t', ids)) : t'.Consistent := by
  induction names generalizing t ids with
  | nil =>
      cases hrun
      exact h
  | cons name names ih =>
      obtain ⟨t₁, id, rest, hintern, hrest, rfl⟩ := exists_of_forEach_cons hrun
      exact ih ((change_intern hintern).consistent h) hrest

/-! ### Room for new names -/

theorem intern_of_full {name : String} (hl : t.lookup? name = none)
    (hfull : ¬ t.size < ClassId.limit) : t.intern name = none := by
  simp [intern, hl, ClassId.ofIndex?, hfull]

theorem exists_intern_of_room {name : String} (hl : t.lookup? name = none)
    (hroom : t.size < ClassId.limit) :
    ∃ t' id, t.intern name = some (t', id) ∧ t'.size = t.size + 1 := by
  rw [intern, hl, ClassId.ofIndex?, if_pos hroom]
  exact ⟨_, _, rfl, Array.size_push ..⟩

theorem unknownNames_cons_of_known {name : String} (hl : t.lookup? name = some id)
    (names : List String) : t.unknownNames (name :: names) = t.unknownNames names := by
  simp [unknownNames, hl]

theorem unknownNames_cons_of_unknown {name : String} (hl : t.lookup? name = none)
    (names : List String) : t.unknownNames (name :: names) = t.unknownNames names + 1 := by
  simp [unknownNames, hl]

theorem unknownNames_of_intern {name : String} (h : t.intern name = some (t', id))
    {names : List String} (hnew : name ∉ names) :
    t'.unknownNames names = t.unknownNames names := by
  refine List.countP_congr fun other hother => ?_
  have hne : other ≠ name := fun heq => hnew (heq ▸ hother)
  rw [lookup?_of_intern h, if_neg hne]

/-- Names can be interned exactly if there are identifiers for those that are new. -/
theorem isSome_forEach_intern_iff (hcons : t.Consistent) {names : List String}
    (hnodup : names.Nodup) :
    (t.forEach intern names).isSome = true ↔
      t.size + t.unknownNames names ≤ ClassId.limit := by
  induction names generalizing t with
  | nil => simpa [forEach, unknownNames] using hcons.size_le
  | cons name names ih =>
      rw [List.nodup_cons] at hnodup
      cases hl : t.lookup? name with
      | some id =>
          rw [unknownNames_cons_of_known hl, ← ih hcons hnodup.2]
          simp [forEach, intern_of_known hl]
      | none =>
          rw [unknownNames_cons_of_unknown hl]
          by_cases hroom : t.size < ClassId.limit
          · obtain ⟨t₁, id, hintern, hsize⟩ := exists_intern_of_room hl hroom
            -- The table has one class more, and one name less is new.
            have hrest := ih ((change_intern hintern).consistent hcons) hnodup.2
            rw [hsize, unknownNames_of_intern hintern hnodup.1] at hrest
            simp only [forEach, hintern, Option.bind_some, Option.isSome_map, hrest]
            omega
          · simp only [forEach, intern_of_full hl hroom, Option.bind_none, Option.isSome_none,
              Bool.false_eq_true, false_iff]
            omega

/-! ### Storing can wait -/

theorem intern_store (hid : id.index < t.size) (c : ClassDef) (name : String) :
    (t.store id c).intern name = (t.intern name).map fun r => (r.1.store id c, r.2) := by
  have hpush : (t.classes.push (.placeholder name)).setIfInBounds id.index c =
      (t.classes.setIfInBounds id.index c).push (.placeholder name) := by
    apply Array.ext'
    simp [List.set_append_left _ _ hid]
  unfold intern
  cases hl : t.lookup? name with
  | some known => simp [hl]
  | none =>
      simp only [lookup?_store, hl, size_store, Option.map_map]
      congr 1
      funext next
      simp [store, hpush]

theorem forEach_intern_store (hid : id.index < t.size) (c : ClassDef) (names : List String) :
    (t.store id c).forEach intern names =
      (t.forEach intern names).map fun r => (r.1.store id c, r.2) := by
  induction names generalizing t with
  | nil => rfl
  | cons name names ih =>
      rw [forEach, forEach, intern_store hid]
      cases hintern : t.intern name with
      | none => rfl
      | some r =>
          have hid' : id.index < r.1.size := Nat.lt_of_lt_of_le hid (change_intern hintern).size_le
          simp [ih hid', Option.map_map, Function.comp_def]

/-- **Adding classes is interning their names and then storing the classes.** -/
theorem forEach_add (hcons : t.Consistent) (cs : List ClassDef) :
    t.forEach add cs =
      (t.forEach intern (cs.map (·.name))).map fun r => (r.1.storeAll (r.2.zip cs), r.2) := by
  induction cs generalizing t with
  | nil => rfl
  | cons c cs ih =>
      rw [forEach, List.map_cons, forEach, add]
      cases hintern : t.intern c.name with
      | none => rfl
      | some r =>
          obtain ⟨t₁, id⟩ := r
          have hadd : t.add c = some (t₁.store id c, id) := by simp [add, hintern]
          have hcons₁ : t₁.Consistent := (change_intern hintern).consistent hcons
          have hlookup : t₁.lookup? c.name = some id := by
            rw [lookup?_of_intern hintern, if_pos rfl]
          obtain ⟨current, hc, -⟩ := hcons₁.lookup?_iff.mp hlookup
          -- The classes that follow are added to a table with `c` in it. Interning does not look at
          -- classes, so `c` may as well be stored when all names are known.
          have hrest := ih ((change_add hadd).consistent hcons)
          rw [forEach_intern_store (index_lt_of_class? hc)] at hrest
          simp [hrest, Option.map_map, Function.comp_def, storeAll]

/-! ### Defining is storing -/

/-- Every definition has the name that the class behind its identifier has now. -/
def NamedAlready (t : ClassTable) (order : List (ClassId × ClassDef)) : Prop :=
  ∀ p ∈ order, ∃ current, t.class? p.1 = some current ∧ current.name = p.2.name

theorem NamedAlready.store {p : ClassId × ClassDef} {order : List (ClassId × ClassDef)}
    (h : t.NamedAlready (p :: order)) : (t.store p.1 p.2).NamedAlready order := by
  obtain ⟨current, hc, hname⟩ := h p List.mem_cons_self
  intro q hq
  rw [class?_store_of_defined hc]
  obtain ⟨current', hc', hname'⟩ := h q (List.mem_cons_of_mem p hq)
  by_cases hid : q.1 = p.1
  · rw [hid, hc] at hc'
    cases hc'
    exact ⟨p.2, if_pos hid, hname.symm.trans hname'⟩
  · exact ⟨current', by rw [if_neg hid, hc'], hname'⟩

theorem defineAll_eq_ok {order : List (ClassId × ClassDef)} (h : t.NamedAlready order) :
    t.defineAll order = .ok () (t.storeAll order) := by
  induction order generalizing t with
  | nil => rfl
  | cons p order ih =>
      obtain ⟨current, hc, hname⟩ := h p List.mem_cons_self
      have hdefine := t.define_of_named hc hname
      rw [defineAll, List.forM_cons, EStateM.run_bind, ← define, hdefine]
      exact ih h.store

theorem store_comm {a b : ClassId} (hne : a ≠ b) (t : ClassTable) (c d : ClassDef) :
    (t.store a c).store b d = (t.store b d).store a c := by
  have hindex : a.index ≠ b.index := fun h => hne (ClassId.index_injective h)
  simp [store, Array.setIfInBounds_comm c d hindex]

theorem storeAll_perm {order order' : List (ClassId × ClassDef)} (hperm : order.Perm order')
    (hdistinct : ∀ p ∈ order, ∀ q ∈ order, p.1 = q.1 → p = q) (t : ClassTable) :
    t.storeAll order = t.storeAll order' := by
  refine hperm.foldl_eq' ?_ t
  intro p hp q hq t
  by_cases hid : p.1 = q.1
  · rw [hdistinct p hp q hq hid]
  · exact store_comm hid t p.2 q.2

/-! ### Both ways lead to one table -/

/-- After the names were interned, every identifier stands for a class of the right name. -/
theorem namedAlready_of_forEach_intern (hcons' : t'.Consistent) {cs : List ClassDef}
    {ids : List ClassId} (h : t.forEach intern (cs.map (·.name)) = some (t', ids)) :
    t'.NamedAlready (ids.zip cs) := by
  have hnames := (lookup?_of_forEach_intern h).2
  intro p hp
  obtain ⟨i, hi, rfl⟩ := List.getElem_of_mem hp
  have hlookup : t'.lookup? (ids.zip cs)[i].2.name = some (ids.zip cs)[i].1 := by
    have hat := congrArg (·[i]?) hnames
    simp only [List.length_zip, Nat.lt_min] at hi
    simpa [hi.1, hi.2] using hat
  exact hcons'.lookup?_iff.mp hlookup

/-- Definitions with distinct names are for distinct identifiers. -/
theorem NamedAlready.eq_of_fst_eq {ids : List ClassId} {cs : List ClassDef}
    (h : t.NamedAlready (ids.zip cs)) (hnodup : (cs.map (·.name)).Nodup) :
    ∀ p ∈ ids.zip cs, ∀ q ∈ ids.zip cs, p.1 = q.1 → p = q := by
  intro p hp q hq hid
  obtain ⟨current, hc, hname⟩ := h p hp
  obtain ⟨current', hc', hname'⟩ := h q hq
  rw [← hid, hc] at hc'
  cases hc'
  have hclass : p.2 = q.2 :=
    List.inj_on_of_nodup_map hnodup (List.of_mem_zip hp).2 (List.of_mem_zip hq).2
      (hname.symm.trans hname')
  exact Prod.ext hid hclass

/-- **Interning all names and then defining the classes in any order gives the table that adding the
classes gives**, with the same identifiers, whether or not the table knew some of the names. No
definition is refused on the way. When there are not enough identifiers for the new names, there is
no answer either way. -/
theorem defining_interned_agrees_with_adding (t : ClassTable) (h : t.Reachable)
    (cs : List ClassDef) (hnodup : (cs.map (·.name)).Nodup) :
    (t.size + t.unknownNames (cs.map (·.name)) ≤ ClassId.limit →
      ∃ t₁ ids t₂, t.forEach intern (cs.map (·.name)) = some (t₁, ids) ∧
        ids.length = cs.length ∧
        (∀ order, order.Perm (ids.zip cs) → t₁.defineAll order = .ok () t₂) ∧
        t.forEach add cs = some (t₂, ids)) ∧
    (ClassId.limit < t.size + t.unknownNames (cs.map (·.name)) →
      t.forEach intern (cs.map (·.name)) = none ∧ t.forEach add cs = none) := by
  have hroom := isSome_forEach_intern_iff h.consistent hnodup
  have hadd := forEach_add h.consistent cs
  refine ⟨?_, ?_⟩
  · intro hfits
    obtain ⟨⟨t₁, ids⟩, hintern⟩ := Option.isSome_iff_exists.mp (hroom.mpr hfits)
    have hlength : ids.length = cs.length := by
      simpa using (congrArg List.length (lookup?_of_forEach_intern hintern).2).symm
    have hnamed : t₁.NamedAlready (ids.zip cs) :=
      namedAlready_of_forEach_intern (h.consistent.forEach_intern hintern) hintern
    refine ⟨t₁, ids, t₁.storeAll (ids.zip cs), hintern, hlength, ?_, by simp [hadd, hintern]⟩
    intro order hperm
    have hnamed' : t₁.NamedAlready order := fun p hp => hnamed p (hperm.mem_iff.mp hp)
    rw [defineAll_eq_ok hnamed', storeAll_perm hperm.symm (hnamed.eq_of_fst_eq hnodup)]
  · intro hfull
    have hnone : t.forEach intern (cs.map (·.name)) = none := by
      rw [← Option.not_isSome_iff_eq_none, hroom]
      omega
    exact ⟨hnone, by rw [hadd, hnone, Option.map_none]⟩

/-- A new class, and one that takes the place of text; each mentions the other. -/
def wordAndText : List ClassDef :=
  [{ name := "Word", kind := .abstract, supertypes := [⟨1⟩] },
   { name := "String", kind := .interface,
     methods := [{ name := "first", params := [], returnType := .ofClass ⟨2⟩ }] }]

/-- The two classes are defined in the order opposite to that of their names. -/
theorem text_defined_before_word :
    (wordAndText.map (·.name)).Nodup ∧
    ∃ t₁ t₂, initial.forEach intern ["Word", "String"] = some (t₁, [⟨2⟩, ⟨1⟩]) ∧
      t₁.defineAll ([⟨2⟩, ⟨1⟩].zip wordAndText).reverse = .ok () t₂ ∧
      initial.forEach add wordAndText = some (t₂, [⟨2⟩, ⟨1⟩]) := by
  have hnodup : (wordAndText.map (·.name)).Nodup := by decide
  obtain ⟨t₁, ids, t₂, hintern, -, hdefine, hadd⟩ :=
    (defining_interned_agrees_with_adding initial .initial wordAndText hnodup).1 (by decide)
  have hids : ids = [⟨2⟩, ⟨1⟩] := by
    have hsecond := congrArg (Option.map Prod.snd) hintern
    exact (Option.some.inj hsecond).symm
  subst hids
  exact ⟨hnodup, t₁, t₂, hintern, hdefine _ (List.reverse_perm _), hadd⟩

end ClassTable

end JavaChecker
