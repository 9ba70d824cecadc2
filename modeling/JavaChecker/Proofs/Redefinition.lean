import JavaChecker.Proofs.Updates

/-!
# JavaChecker.Proofs.Redefinition

What becomes of a definition for an identifier. It is refused because the identifier stands for
nothing, it is refused because another class has its name, or it takes the place of the class behind
the identifier. `DefineOutcome` says this in terms of classes alone. `define` itself asks the index
whether a name is taken; that the two come to the same is `define_outcome`, and it is here that the
invariant on names is needed.

What a new definition does to names then follows from what it does to classes (`Update`), because
before and after it the classes determine what every name stands for.
-/

namespace JavaChecker

namespace ClassTable

variable {t t' : ClassTable} {id : ClassId} {c current : ClassDef}

/-! ### Names after one class is written -/

theorem Update.lookup?_name (h : Update t id c t') (hcons' : t'.Consistent) :
    t'.lookup? c.name = some id :=
  hcons'.lookup?_of_class? h.class?_self

/-- The former name of a class that gets another one is free. -/
theorem Update.lookup?_former (h : Update t id c t') (hcons : t.Consistent)
    (hcons' : t'.Consistent) (hc : t.class? id = some current) (hname : current.name ≠ c.name) :
    t'.lookup? current.name = none := by
  rw [hcons'.lookup?_eq_none_iff]
  intro x d hd hsame
  by_cases hx : x = id
  · rw [hx, h.class?_self] at hd
    cases hd
    exact hname hsame.symm
  · rw [h.class?_of_ne hx] at hd
    exact hx (hcons.name_injective hd hc hsame)

/-- A name that is neither the former nor the new one stands for what it stood for. -/
theorem Update.lookup?_of_ne (h : Update t id c t') (hcons : t.Consistent)
    (hcons' : t'.Consistent) (hc : t.class? id = some current) {name : String}
    (hold : name ≠ current.name) (hnew : name ≠ c.name) : t'.lookup? name = t.lookup? name := by
  ext x
  show t'.lookup? name = some x ↔ t.lookup? name = some x
  rw [hcons'.lookup?_iff, hcons.lookup?_iff]
  by_cases hx : x = id
  -- The written class has the former name before and the new one after, never this one.
  · simp [hx, hc, h.class?_self, Ne.symm hold, Ne.symm hnew]
  · rw [h.class?_of_ne hx]

/-! ### The outcomes of a definition -/

/-- A class other than the one behind the identifier has the name. -/
def NamedElsewhere (t : ClassTable) (id : ClassId) (name : String) : Prop :=
  ∃ other d, other ≠ id ∧ t.class? other = some d ∧ d.name = name

/-- What comes of defining the class behind an identifier. -/
inductive DefineOutcome (t : ClassTable) (id : ClassId) (c : ClassDef) :
    EStateM.Result DefineError ClassTable Unit → Prop where
  | unknown : t.size ≤ id.index → DefineOutcome t id c (.error (.unknownClass id) t)
  | taken : id.index < t.size → t.NamedElsewhere id c.name →
      DefineOutcome t id c (.error (.nameTaken c.name) t)
  | defined {current : ClassDef} {t' : ClassTable} :
      t.class? id = some current → ¬ t.NamedElsewhere id c.name → t'.size = t.size →
      Update t id c t' → t'.Consistent → DefineOutcome t id c (.ok () t')

/-- Where a class has a name, another one that has it would be the same class. -/
theorem Consistent.not_namedElsewhere (hcons : t.Consistent) (hc : t.class? id = some current) :
    ¬ t.NamedElsewhere id current.name := by
  rintro ⟨other, d, hne, hd, hname⟩
  exact hne (hcons.name_injective hd hc hname)

/-- What the index knows under a name that the class does not have is another class. -/
theorem Consistent.namedElsewhere_of_lookup? (hcons : t.Consistent)
    (hc : t.class? id = some current) {name : String} (hne : current.name ≠ name)
    (h : (t.lookup? name).isSome = true) : t.NamedElsewhere id name := by
  obtain ⟨other, hother⟩ := Option.isSome_iff_exists.mp h
  obtain ⟨d, hd, hname⟩ := hcons.lookup?_iff.mp hother
  refine ⟨other, d, ?_, hd, hname⟩
  rintro rfl
  rw [hc] at hd
  cases hd
  exact hne hname

theorem size_of_define (h : t.define id c = .ok () t') : t'.size = t.size := by
  cases defineStep h <;> exact size_store ..

theorem define_outcome (hcons : t.Consistent) (id : ClassId) (c : ClassDef) :
    DefineOutcome t id c (t.define id c) := by
  cases hdef : t.define id c with
  | ok _ t' =>
      obtain ⟨⟨current, hc⟩, hupdate⟩ := update_of_define hdef
      have hcons' : t'.Consistent := (change_define hdef).consistent hcons
      refine .defined hc ?_ (size_of_define hdef) hupdate hcons'
      -- Another class of that name would still be there, under the name the identifier now has.
      rintro ⟨other, d, hne, hd, hname⟩
      rw [← hupdate.class?_of_ne hne] at hd
      exact hne (hcons'.name_injective hd hupdate.class?_self hname)
  | error e t' =>
      cases defineStep hdef with
      | unknown hc => exact .unknown (Array.getElem?_eq_none_iff.mp hc)
      | taken hc hname htaken =>
          exact .taken (index_lt_of_class? hc) (hcons.namedElsewhere_of_lookup? hc hname htaken)

/-! ### Definitions in tables that operations build -/

/-- **A definition is refused for one of two reasons and otherwise replaces one class.** It is
refused if the identifier stands for nothing, or if another class has the name now; the table is
then as it was. Otherwise the identifier stands for the new definition, every other identifier for
what it stood for, and of the names only the former and the new one have changed their meaning.
Under the name the class has already it can always be defined again. -/
theorem define_refused_or_replaces_one_class (t : ClassTable) (h : t.Reachable) (id : ClassId)
    (c : ClassDef) :
    ((∃ t', t.define id c = .error (.unknownClass id) t') ↔ t.size ≤ id.index) ∧
    ((∃ t', t.define id c = .error (.nameTaken c.name) t') ↔
      id.index < t.size ∧ t.NamedElsewhere id c.name) ∧
    (∀ e t', t.define id c = .error e t' →
      (e = .unknownClass id ∨ e = .nameTaken c.name) ∧ t' = t ∧ t.apply (.define id c) = t) ∧
    (id.index < t.size → ¬ t.NamedElsewhere id c.name →
      ∃ current t', t.class? id = some current ∧ t.define id c = .ok () t' ∧
        t.apply (.define id c) = t' ∧
        t'.class? id = some c ∧ (∀ other, other ≠ id → t'.class? other = t.class? other) ∧
        t'.size = t.size ∧ t'.wellKnown = t.wellKnown ∧
        (∀ name, name ≠ current.name → name ≠ c.name → t'.lookup? name = t.lookup? name) ∧
        t'.lookup? c.name = some id ∧
        (current.name ≠ c.name → t'.lookup? current.name = none)) ∧
    ∀ current, t.class? id = some current → current.name = c.name →
      ∃ t', t.define id c = .ok () t' := by
  have hcons : t.Consistent := h.consistent
  have houtcome := define_outcome hcons id c
  cases hdef : t.define id c with
  | error e t' =>
      rw [hdef] at houtcome
      have hafter : t.apply (.define id c) = t' := by simp [apply, hdef]
      cases houtcome with
      | unknown hsize =>
          have hnone : t.class? id = none := class?_eq_none_of_size_le hsize
          simp [hafter, hnone, hsize, Nat.not_lt.mpr hsize]
      | taken hsize htaken =>
          simp only [hafter, hsize, htaken, Nat.not_le.mpr hsize]
          refine ⟨by simp, by simp, by simp, by simp, ?_⟩
          intro current hc hname
          exact absurd (hname ▸ htaken) (hcons.not_namedElsewhere hc)
  | ok _ t' =>
      rw [hdef] at houtcome
      have hafter : t.apply (.define id c) = t' := by simp [apply, hdef]
      cases houtcome with
      | @defined current _ hc hfree hsize hupdate hcons' =>
          have hlt : id.index < t.size := index_lt_of_class? hc
          refine ⟨by simp [Nat.not_le.mpr hlt], by simp [hfree], by simp, ?_, by simp⟩
          intro _ _
          exact ⟨current, t', hc, rfl, hafter, hupdate.class?_self,
            fun other => hupdate.class?_of_ne, hsize, hupdate.wellKnown_eq,
            fun name => hupdate.lookup?_of_ne hcons hcons' hc, hupdate.lookup?_name hcons',
            hupdate.lookup?_former hcons hcons' hc⟩

/-- In the initial table, an identifier without a class and a name of another class are refused and
nothing changes, and the root class can be renamed. -/
theorem define_on_initial :
    initial.Reachable ∧
    initial.define ⟨2⟩ stringClass = .error (.unknownClass ⟨2⟩) initial ∧
    initial.define ⟨1⟩ objectClass = .error (.nameTaken "Object") initial ∧
    ∃ t', initial.define ⟨0⟩ { objectClass with name := "Top" } = .ok () t' ∧
      t'.lookup? "Top" = some ⟨0⟩ ∧ t'.lookup? "Object" = none ∧
      t'.lookup? "String" = some ⟨1⟩ := by
  obtain ⟨hunknown, -, hrefused, -⟩ :=
    define_refused_or_replaces_one_class initial .initial ⟨2⟩ stringClass
  obtain ⟨after, hafter⟩ := hunknown.mpr (by decide)
  obtain ⟨-, htaken, hrefused', -⟩ :=
    define_refused_or_replaces_one_class initial .initial ⟨1⟩ objectClass
  obtain ⟨after', hafter'⟩ := htaken.mpr ⟨by decide, ⟨0⟩, objectClass, by decide, rfl, rfl⟩
  obtain ⟨-, rfl, -⟩ := hrefused _ _ hafter
  obtain ⟨-, rfl, -⟩ := hrefused' _ _ hafter'
  refine ⟨.initial, hafter, hafter', ?_⟩
  have hfree : ¬ initial.NamedElsewhere ⟨0⟩ "Top" := by
    rintro ⟨other, d, -, hd, hname⟩
    have hnone : initial.lookup? "Top" = none := by decide
    exact initial_consistent.lookup?_eq_none_iff.mp hnone other d hd hname
  obtain ⟨current, t', hc, hdef, -, -, -, -, -, hothers, hnew, hformer⟩ :=
    (define_refused_or_replaces_one_class initial .initial ⟨0⟩
      { objectClass with name := "Top" }).2.2.2.1 (by decide) hfree
  cases hc
  exact ⟨t', hdef, hnew, hformer (by decide), by rw [hothers _ (by decide) (by decide)]; decide⟩

end ClassTable

end JavaChecker
