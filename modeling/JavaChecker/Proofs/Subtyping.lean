import JavaChecker.ClassTable.Subtype
import JavaChecker.Proofs.Inheritance
import JavaChecker.Proofs.Reachable

/-!
# JavaChecker.Proofs.Subtyping

Subtyping as a relation, and the check that decides it.

`SubtypeOf` has one rule for each way in which types are related. `isSubtype_iff` shows that the
check decides it on every table; the searches behind the check are not looked at after that.

The relation is always reflexive. It need not be transitive: that every class is below the root
is a rule of its own, and the rule does not go on to whatever the root itself is declared to be
below. `RootOnTop` says that there is nothing of that kind. It is enough for transitivity
(`SubtypeOf.trans`), and in a table that leaves two identifiers undefined it is necessary.
-/

namespace JavaChecker

namespace ClassTable

variable {t : ClassTable}

/-! ### The relation -/

/-- The first type is a subtype of the second. Primitive types and `void` occur in the first rule
only. -/
inductive SubtypeOf (t : ClassTable) : Ty → Ty → Prop where
  /-- Every type is below itself. -/
  | refl (a : Ty) : SubtypeOf t a a
  /-- The type of `null` is below every class type. -/
  | null (id : ClassId) : SubtypeOf t .null (.ofClass id)
  /-- Every class type is below the root, defined or not. -/
  | root (id : ClassId) : SubtypeOf t (.ofClass id) (.ofClass t.wellKnown.object)
  /-- A class type is below whatever its declared supertypes lead to. -/
  | inherited {a b : ClassId} : t.Ancestor a b → SubtypeOf t (.ofClass a) (.ofClass b)

theorem inherits_iff {a b : ClassId} : t.inherits a b = true ↔ t.Ancestor a b := by
  rw [inherits, List.contains_iff_mem, mem_walk_iff]

/-- **The check decides the relation**, on every table. -/
theorem isSubtype_iff {a b : Ty} : t.isSubtype a b = true ↔ t.SubtypeOf a b := by
  refine ⟨?_, ?_⟩
  · intro h
    unfold isSubtype at h
    rw [Bool.or_eq_true, beq_iff_eq] at h
    rcases h with rfl | h
    · exact .refl a
    · -- Behind the test for equality: from `null`, between classes, and all other pairs.
      split at h
      · cases b with
        | ofClass id => exact .null id
        | null => exact .refl .null
        | void | primitive _ => cases h
      · next x y =>
          rw [Bool.or_eq_true, beq_iff_eq, inherits_iff] at h
          rcases h with rfl | h
          · exact .root x
          · exact .inherited h
      · cases h
  · intro h
    cases h with
    | refl => exact t.isSubtype_refl a
    | null id => rw [isSubtype_null, Ty.isReference]
    | root id => simp [isSubtype]
    | inherited h => simp [isSubtype, inherits_iff.mpr h]

theorem subtypeOf_ofClass_iff {a b : ClassId} :
    t.SubtypeOf (.ofClass a) (.ofClass b) ↔ b = t.wellKnown.object ∨ t.Ancestor a b := by
  refine ⟨?_, ?_⟩
  · intro h
    cases h with
    | refl => exact .inr .refl
    | root => exact .inl rfl
    | inherited h => exact .inr h
  · rintro (rfl | h)
    · exact .root a
    · exact .inherited h

theorem subtypeOf_undefined_iff {a b : ClassId} (h : t.class? a = none) :
    t.SubtypeOf (.ofClass a) (.ofClass b) ↔ b = a ∨ b = t.wellKnown.object := by
  rw [subtypeOf_ofClass_iff, ancestor_undefined_iff h, or_comm]

/-- The check holds exactly between equal types, from `null` to class types, and from a class
type to the root and to whatever a path of declared supertypes ends in. An identifier that
nothing defines can end a path; it starts none. -/
theorem isSubtype_eq_true_iff_path (t : ClassTable) :
    (∀ a b : Ty, t.isSubtype a b = true ↔
      a = b ∨ (a = .null ∧ ∃ y, b = .ofClass y) ∨
        ∃ x y, a = .ofClass x ∧ b = .ofClass y ∧
          (y = t.wellKnown.object ∨ Relation.ReflTransGen t.DirectSupertype x y)) ∧
    ∀ y, t.class? y = none →
      (∀ x, t.DirectSupertype x y → t.isSubtype (.ofClass x) (.ofClass y) = true) ∧
      ∀ z, t.isSubtype (.ofClass y) (.ofClass z) = true ↔ z = y ∨ z = t.wellKnown.object := by
  refine ⟨fun a b => ?_, fun y hy => ⟨fun x hxy => ?_, fun z => ?_⟩⟩
  · rw [isSubtype_iff]
    refine ⟨?_, ?_⟩
    · intro h
      cases h with
      | refl => exact .inl rfl
      | null id => exact .inr (.inl ⟨rfl, id, rfl⟩)
      | root id => exact .inr (.inr ⟨id, _, rfl, rfl, .inl rfl⟩)
      | inherited h => exact .inr (.inr ⟨_, _, rfl, rfl, .inr h⟩)
    · rintro (rfl | ⟨rfl, y, rfl⟩ | ⟨x, y, rfl, rfl, h⟩)
      · exact .refl a
      · exact .null y
      · exact subtypeOf_ofClass_iff.mpr h
  · exact isSubtype_iff.mpr (.inherited (.single hxy))
  · rw [isSubtype_iff, subtypeOf_undefined_iff hy]

/-! ### Transitivity -/

/-- The root class declares no supertype but itself. -/
def RootOnTop (t : ClassTable) : Prop :=
  ∀ sup, t.DirectSupertype t.wellKnown.object sup → sup = t.wellKnown.object

theorem RootOnTop.eq_of_ancestor (h : t.RootOnTop) {id : ClassId}
    (hanc : t.Ancestor t.wellKnown.object id) : id = t.wellKnown.object := by
  induction hanc with
  | refl => rfl
  | tail _ hstep ih =>
      subst ih
      exact h _ hstep

/-- Below a root on top, subtyping composes. -/
theorem SubtypeOf.trans (h : t.RootOnTop) {a b c : Ty} (hab : t.SubtypeOf a b)
    (hbc : t.SubtypeOf b c) : t.SubtypeOf a c := by
  cases hbc with
  | refl => exact hab
  | null id =>
      cases hab with
      | refl => exact .null id
  | root id =>
      cases hab with
      | refl => exact .root id
      | null => exact .null _
      | root => exact .root _
      | inherited _ => exact .root _
  | inherited hbc =>
      cases hab with
      | refl => exact .inherited hbc
      | null => exact .null _
      | root =>
          -- The one case that needs the hypothesis: up to the root, and on from there.
          rw [h.eq_of_ancestor hbc]
          exact .root _
      | inherited hab => exact .inherited (hab.trans hbc)

theorem exists_undefined_ne (h : t.size ≤ ClassId.limit - 2) (id : ClassId) :
    ∃ u, t.class? u = none ∧ u ≠ id := by
  have hlast : t.class? ⟨4294967295⟩ = none := class?_eq_none_of_size_le (Nat.le_succ_of_le h)
  have hprev : t.class? ⟨4294967294⟩ = none := class?_eq_none_of_size_le h
  -- Of two undefined identifiers at most one is the given one.
  by_cases hid : id = ⟨4294967295⟩
  · exact ⟨_, hprev, by rw [hid]; decide⟩
  · exact ⟨_, hlast, Ne.symm hid⟩

/-- Where subtyping composes and two identifiers are undefined, the root is on top: an undefined
identifier is below the root, and so below every supertype of the root, which can only be the
root again. -/
theorem rootOnTop_of_trans (hsize : t.size ≤ ClassId.limit - 2)
    (htrans : ∀ a b c, t.SubtypeOf a b → t.SubtypeOf b c → t.SubtypeOf a c) : t.RootOnTop := by
  intro sup hsup
  obtain ⟨u, hu, hne⟩ := exists_undefined_ne hsize sup
  have hbelow : t.SubtypeOf (.ofClass u) (.ofClass sup) :=
    htrans _ _ _ (.root u) (.inherited (.single hsup))
  rcases (subtypeOf_undefined_iff hu).mp hbelow with heq | heq
  · exact absurd heq.symm hne
  · exact heq

/-- The check is reflexive on every table. On a table that operations build, with at least two
identifiers undefined, it is transitive exactly when the root class, which such a table always
defines, declares no supertype but itself. -/
theorem isSubtype_transitive_iff_root_on_top :
    (∀ (t : ClassTable) (a : Ty), t.isSubtype a a = true) ∧
    ∀ t : ClassTable, t.Reachable → t.size ≤ ClassId.limit - 2 →
      ∃ root, t.class? t.wellKnown.object = some root ∧
        ((∀ a b c, t.isSubtype a b = true → t.isSubtype b c = true → t.isSubtype a c = true) ↔
          ∀ sup ∈ root.supertypes, sup = t.wellKnown.object) := by
  refine ⟨isSubtype_refl, ?_⟩
  intro t hreach hsize
  obtain ⟨root, hroot⟩ := hreach.exists_object
  refine ⟨root, hroot, ?_⟩
  have htop : t.RootOnTop ↔ ∀ sup ∈ root.supertypes, sup = t.wellKnown.object := by
    simp only [RootOnTop, ← mem_supertypesOf, supertypesOf_defined hroot]
  rw [← htop]
  simp only [isSubtype_iff]
  exact ⟨rootOnTop_of_trans hsize, fun h a b c => SubtypeOf.trans h⟩

/-- The initial table after its root class was declared to be below the class of text. -/
def rootBelowString : ClassTable :=
  initial.apply (.define ⟨0⟩ { objectClass with supertypes := [⟨1⟩] })

/-- The initial table is transitive, and one redefinition of its root is enough to end that. -/
theorem isSubtype_transitive_until_root_redefined :
    (initial.Reachable ∧ initial.size ≤ ClassId.limit - 2 ∧
      ∀ a b c, initial.isSubtype a b = true → initial.isSubtype b c = true →
        initial.isSubtype a c = true) ∧
    (rootBelowString.Reachable ∧ rootBelowString.size ≤ ClassId.limit - 2 ∧
      ¬ ∀ a b c, rootBelowString.isSubtype a b = true → rootBelowString.isSubtype b c = true →
        rootBelowString.isSubtype a c = true) := by
  have hreach : rootBelowString.Reachable := .step _ .initial
  refine ⟨⟨.initial, by decide, ?_⟩, hreach, by decide, ?_⟩
  · obtain ⟨root, hroot, hiff⟩ :=
      isSubtype_transitive_iff_root_on_top.2 initial .initial (by decide)
    obtain rfl : objectClass = root := Option.some.inj hroot
    exact hiff.mpr (by simp [objectClass])
  · obtain ⟨root, hroot, hiff⟩ :=
      isSubtype_transitive_iff_root_on_top.2 rootBelowString hreach (by decide)
    obtain rfl : { objectClass with supertypes := [⟨1⟩] } = root := Option.some.inj hroot
    intro htrans
    have hstring : (⟨1⟩ : ClassId) = rootBelowString.wellKnown.object :=
      hiff.mp htrans ⟨1⟩ (List.mem_singleton_self _)
    exact absurd hstring (by decide)

end ClassTable

end JavaChecker
