import JavaChecker.Proofs.Lookup
import JavaChecker.Proofs.Subtyping

/-!
# JavaChecker.Proofs.InheritedMethods

Subtyping and lookup are two searches over one hierarchy, and they treat the root differently. Every
class is below the root, whatever it declares; but a class that does not list the root is given only
what the root declares itself, and nothing from above it.

`Understands` says on which classes a call of a name finds anything. It passes down declared
supertypes without condition (`Understands.of_ancestor`). Down the implicit step to the root it
passes if the root declares all it inherits (`RootSelfContained`), and where some identifier is
undefined, so that a class with nothing of its own stands below the root, only then.
-/

namespace JavaChecker

namespace ClassTable

variable {t : ClassTable}

/-! ### Which classes have a method of a name -/

/-- The class behind the identifier declares a method of that name itself. -/
def Declares (t : ClassTable) (id : ClassId) (name : String) : Prop :=
  ∃ c, t.class? id = some c ∧ ∃ m ∈ c.methods, m.name = name

/-- A call of this name on a value of the class finds a method: one of its ancestors declares the
name, or the root class does. -/
def Understands (t : ClassTable) (id : ClassId) (name : String) : Prop :=
  (∃ x, t.Ancestor id x ∧ t.Declares x name) ∨ t.Declares t.wellKnown.object name

theorem declares_iff {id : ClassId} {name : String} :
    t.Declares id name ↔ ∃ m, t.declaredMethod? id name = some m := by
  rw [← Option.isSome_iff_exists]
  cases hc : t.class? id with
  | none => simp [declaredMethod?, Declares, hc]
  | some c => simp [declaredMethod?, ClassDef.declaredMethod?, Declares, hc]

theorem declaredMethod?_eq_none_iff {id : ClassId} {name : String} :
    t.declaredMethod? id name = none ↔ ¬ t.Declares id name := by
  rw [declares_iff, ← Option.isSome_iff_exists, Option.not_isSome_iff_eq_none]

theorem isSome_method?_iff {id : ClassId} {name : String} :
    (t.method? (.ofClass id) name).isSome = true ↔ t.Understands id name := by
  rw [Option.isSome_iff_exists]
  simp only [method?_eq_some_iff]
  refine ⟨?_, ?_⟩
  · rintro ⟨m, h⟩
    obtain ⟨x, hanc | rfl, hx⟩ := h.exists_declared
    · exact .inl ⟨x, hanc, declares_iff.mpr ⟨m, hx⟩⟩
    · exact .inr (declares_iff.mpr ⟨m, hx⟩)
  · intro h
    by_cases habove : ∃ x, t.Ancestor id x ∧ t.Declares x name
    · -- Some level declares the name, so some level is the first to do so.
      obtain ⟨x, hx, hdecl⟩ := habove
      obtain ⟨k, hk⟩ := exists_mem_level_iff.mpr hx
      obtain ⟨j, left, y, right, m, hlower, hlevel, hleft, hy⟩ :=
        exists_first_level hk (mt declaredMethod?_eq_none_iff.mp (not_not.mpr hdecl))
      exact ⟨m, .nearest hlower hlevel hleft hy⟩
    · obtain ⟨m, hm⟩ := declares_iff.mp (h.resolve_left habove)
      refine ⟨m, .root (fun k x hx => ?_) hm⟩
      exact declaredMethod?_eq_none_iff.mpr fun hdecl =>
        habove ⟨x, exists_mem_level_iff.mp ⟨k, hx⟩, hdecl⟩

/-! ### Down the hierarchy -/

/-- What an ancestor understands, the class understands. -/
theorem Understands.of_ancestor {a b : ClassId} {name : String} (h : t.Understands b name)
    (hab : t.Ancestor a b) : t.Understands a name := by
  rcases h with ⟨x, hbx, hx⟩ | hroot
  · exact .inl ⟨x, hab.trans hbx, hx⟩
  · exact .inr hroot

theorem understands_undefined_iff {id : ClassId} {name : String} (h : t.class? id = none) :
    t.Understands id name ↔ t.Declares t.wellKnown.object name := by
  refine or_iff_right ?_
  rintro ⟨x, hx, c, hc, -⟩
  rw [(ancestor_undefined_iff h).mp hx, h] at hc
  cases hc

/-- The root class declares every method name that it inherits. -/
def RootSelfContained (t : ClassTable) : Prop :=
  ∀ x name, t.Ancestor t.wellKnown.object x → t.Declares x name →
    t.Declares t.wellKnown.object name

theorem RootSelfContained.understands_iff (h : t.RootSelfContained) {name : String} :
    t.Understands t.wellKnown.object name ↔ t.Declares t.wellKnown.object name := by
  refine ⟨?_, .inr⟩
  rintro (⟨x, hx, hdecl⟩ | hroot)
  · exact h x name hx hdecl
  · exact hroot

/-- Below a root that declares what it inherits, a subtype understands whatever its supertype
does. -/
theorem Understands.of_subtypeOf (h : t.RootSelfContained) {a b : ClassId} {name : String}
    (hb : t.Understands b name) (hab : t.SubtypeOf (.ofClass a) (.ofClass b)) :
    t.Understands a name := by
  rcases subtypeOf_ofClass_iff.mp hab with rfl | hanc
  · exact .inr (h.understands_iff.mp hb)
  · exact hb.of_ancestor hanc

/-- Where every subtype understands what its supertypes do and some identifier is undefined, the
root declares what it inherits: the undefined identifier is below the root and has nothing else to
take a method from. -/
theorem rootSelfContained_of_understands {u : ClassId} (hu : t.class? u = none)
    (h : ∀ a b name, t.SubtypeOf (.ofClass a) (.ofClass b) → t.Understands b name →
      t.Understands a name) : t.RootSelfContained := by
  intro x name hx hdecl
  have hroot : t.Understands t.wellKnown.object name := .inl ⟨x, hx, hdecl⟩
  exact (understands_undefined_iff hu).mp (h u _ name (.root u) hroot)

/-- On every table a method found on a class is found, possibly overridden, on each class from which
declared supertypes lead there. On a table that leaves some identifier undefined, the same holds
along the subtype check as a whole exactly when each method name that is declared above the root is
declared by the root itself. -/
theorem method?_follows_subtyping_iff_root_self_contained :
    (∀ (t : ClassTable) (a b : ClassId), Relation.ReflTransGen t.DirectSupertype a b →
      ∀ name, (t.method? (.ofClass b) name).isSome = true →
        (t.method? (.ofClass a) name).isSome = true) ∧
    ∀ t : ClassTable, (∃ u, t.class? u = none) →
      ((∀ a b name, t.isSubtype (.ofClass a) (.ofClass b) = true →
          (t.method? (.ofClass b) name).isSome = true →
          (t.method? (.ofClass a) name).isSome = true) ↔
        ∀ x name, Relation.ReflTransGen t.DirectSupertype t.wellKnown.object x →
          t.Declares x name → t.Declares t.wellKnown.object name) := by
  refine ⟨?_, ?_⟩
  · intro t a b hab name
    rw [isSome_method?_iff, isSome_method?_iff]
    exact fun hb => hb.of_ancestor hab
  · rintro t ⟨u, hu⟩
    simp only [isSubtype_iff, isSome_method?_iff]
    exact ⟨rootSelfContained_of_understands hu,
      fun h a b name hab hb => hb.of_subtypeOf h hab⟩

theorem initial_rootOnTop : initial.RootOnTop := by
  rintro sup ⟨c, hc, hsup⟩
  obtain rfl : objectClass = c := Option.some.inj hc
  cases hsup

/-- In the initial table text inherits from the root, and every subtype finds what its supertypes
do. Once the root is declared to be below the class of text, it finds methods that other classes
below it do not. -/
theorem method?_follows_subtyping_until_root_redefined :
    (initial.method? (.ofClass ⟨1⟩) "toString").isSome = true ∧
    (initial.class? ⟨2⟩ = none ∧
      ∀ a b name, initial.isSubtype (.ofClass a) (.ofClass b) = true →
        (initial.method? (.ofClass b) name).isSome = true →
        (initial.method? (.ofClass a) name).isSome = true) ∧
    (rootBelowString.Reachable ∧ rootBelowString.class? ⟨2⟩ = none ∧
      ¬ ∀ a b name, rootBelowString.isSubtype (.ofClass a) (.ofClass b) = true →
        (rootBelowString.method? (.ofClass b) name).isSome = true →
        (rootBelowString.method? (.ofClass a) name).isSome = true) := by
  obtain ⟨hinherit, hlaw⟩ := method?_follows_subtyping_iff_root_self_contained
  refine ⟨?_, ⟨rfl, ?_⟩, .step _ .initial, rfl, ?_⟩
  · refine hinherit initial ⟨1⟩ ⟨0⟩ (.single ⟨stringClass, rfl, by decide⟩) "toString" ?_
    exact isSome_method?_iff.mpr (.inr ⟨objectClass, rfl, by decide⟩)
  · refine (hlaw initial ⟨⟨2⟩, rfl⟩).mpr fun x name hx hdecl => ?_
    rwa [initial_rootOnTop.eq_of_ancestor hx] at hdecl
  · intro hall
    have hlength : rootBelowString.Declares ⟨0⟩ "length" :=
      (hlaw rootBelowString ⟨⟨2⟩, rfl⟩).mp hall ⟨1⟩ "length"
        (.single ⟨_, rfl, List.mem_singleton_self _⟩) ⟨stringClass, rfl, by decide⟩
    obtain ⟨c, hc, hm⟩ := hlength
    obtain rfl : { objectClass with supertypes := [⟨1⟩] } = c := Option.some.inj hc
    exact absurd hm (by decide)

end ClassTable

end JavaChecker
