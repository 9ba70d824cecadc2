import JavaChecker.Proofs.InheritedMethods

/-!
# JavaChecker.Proofs.Unrolling

Lookup by name against the unrolled hierarchy.

The levels of a class one after the other, with repetitions and without an end on a cycle, are the
plain reading of inheritance: the first class in that list that declares a name decides. `Found`
says what there is to find in it, without a search and without marking what was seen. There always
is an answer (`exists_found`), and it is the one that lookup gives (`Found.method?_eq`). So which of
several declarations wins does not depend on what the search leaves out.
-/

namespace JavaChecker

namespace ClassTable

variable {t : ClassTable}

/-! ### Declarations of one class -/

/-- What a class itself declares under a name. -/
inductive Own (t : ClassTable) (id : ClassId) (name : String) : Option MethodDef → Prop where
  /-- The first of its methods that has the name. -/
  | first {c : ClassDef} {m : MethodDef} {earlier later : List MethodDef} :
      t.class? id = some c → c.methods = earlier ++ m :: later → m.name = name →
      (∀ m' ∈ earlier, m'.name ≠ name) → Own t id name (some m)
  | none : ¬ t.Declares id name → Own t id name none

theorem declaredMethod?_eq_some_iff {id : ClassId} {name : String} {m : MethodDef} :
    t.declaredMethod? id name = some m ↔ t.Own id name (some m) := by
  refine ⟨?_, ?_⟩
  · intro h
    obtain ⟨c, hc, hm⟩ := Option.bind_eq_some_iff.mp h
    obtain ⟨hname, earlier, later, hmethods, hearlier⟩ := List.find?_eq_some_iff_append.mp hm
    refine .first hc hmethods (by simpa using hname) fun m' hm' => ?_
    simpa using hearlier m' hm'
  · intro h
    cases h with
    | @first c _ earlier later hc hmethods hname hearlier =>
        refine Option.bind_eq_some_iff.mpr ⟨c, hc, List.find?_eq_some_iff_append.mpr ?_⟩
        refine ⟨by simpa using hname, earlier, later, hmethods, fun m' hm' => ?_⟩
        simpa using hearlier m' hm'

theorem own_declaredMethod? (id : ClassId) (name : String) :
    t.Own id name (t.declaredMethod? id name) := by
  cases h : t.declaredMethod? id name with
  | some m => exact declaredMethod?_eq_some_iff.mp h
  | none => exact .none (declaredMethod?_eq_none_iff.mp h)

theorem Own.declaredMethod?_eq {id : ClassId} {name : String} {found : Option MethodDef}
    (h : t.Own id name found) : t.declaredMethod? id name = found := by
  cases found with
  | some m => exact declaredMethod?_eq_some_iff.mpr h
  | none =>
      cases h with
      | none hnot => exact declaredMethod?_eq_none_iff.mpr hnot

/-! ### The unrolled hierarchy -/

/-- The first levels of a class, one after the other. -/
def unrolled (t : ClassTable) (start : ClassId) (n : Nat) : List ClassId :=
  (List.range n).flatMap (t.level [start])

/-- What there is to find under a name on a type, if anything is. -/
inductive Found (t : ClassTable) : Ty → String → Option MethodDef → Prop where
  /-- The first class of the unrolled hierarchy that declares the name decides. -/
  | nearest {start id : ClassId} {name : String} {m : MethodDef} {n : Nat}
      {before after : List ClassId} :
      t.unrolled start n = before ++ id :: after → (∀ x ∈ before, ¬ t.Declares x name) →
      t.Own id name (some m) → Found t (.ofClass start) name (some m)
  /-- No class declares the name; the root class is not among them and is asked last. -/
  | root {start : ClassId} {name : String} {found : Option MethodDef} :
      (∀ k, ∀ x ∈ t.level [start] k, ¬ t.Declares x name) →
      (∀ k, t.wellKnown.object ∉ t.level [start] k) →
      t.Own t.wellKnown.object name found → Found t (.ofClass start) name found
  /-- No class declares the name, and the root class is among them. -/
  | nowhere {start : ClassId} {name : String} :
      (∀ k, ∀ x ∈ t.level [start] k, ¬ t.Declares x name) →
      (∃ k, t.wellKnown.object ∈ t.level [start] k) → Found t (.ofClass start) name none
  /-- The type is not a class. -/
  | notClass {ty : Ty} {name : String} : (∀ id, ty ≠ .ofClass id) → Found t ty name none

theorem mem_walk_object_iff {start : ClassId} :
    t.wellKnown.object ∈ t.walk start ↔ ∃ k, t.wellKnown.object ∈ t.level [start] k :=
  mem_walk_iff.trans exists_mem_level_iff.symm

theorem findSome?_walk_eq_none {start : ClassId} {name : String}
    (h : ∀ k, ∀ x ∈ t.level [start] k, ¬ t.Declares x name) :
    (t.walk start).findSome? (t.declaredMethod? · name) = none :=
  findSome?_walk_eq_none_iff.mpr fun k x hx => declaredMethod?_eq_none_iff.mpr (h k x hx)

theorem Found.method?_eq {ty : Ty} {name : String} {found : Option MethodDef}
    (h : t.Found ty name found) : t.method? ty name = found := by
  cases h with
  | @nearest start id _ m n before after hsplit hbefore hown =>
      have hfirst : (t.unrolled start n).findSome? (t.declaredMethod? · name) = some m := by
        rw [hsplit, List.findSome?_eq_some_iff]
        refine ⟨before, id, after, rfl, hown.declaredMethod?_eq, fun x hx => ?_⟩
        exact declaredMethod?_eq_none_iff.mpr (hbefore x hx)
      rw [method?, findSome?_walk_of_levels hfirst]
  | @root start _ _ hnone hout hown =>
      have hobject : t.wellKnown.object ∉ t.walk start := by
        rw [mem_walk_object_iff]
        exact not_exists.mpr hout
      rw [method?, findSome?_walk_eq_none hnone]
      simpa [hobject] using hown.declaredMethod?_eq
  | @nowhere start _ hnone hin =>
      have hobject : t.wellKnown.object ∈ t.walk start := mem_walk_object_iff.mpr hin
      rw [method?, findSome?_walk_eq_none hnone]
      simp [hobject]
  | notClass hty =>
      cases ty with
      | ofClass id => exact absurd rfl (hty id)
      | void | primitive _ | null => rfl

/-- There is an answer for every type and name. -/
theorem exists_found (t : ClassTable) (ty : Ty) (name : String) :
    ∃ found, t.Found ty name found := by
  cases ty with
  | void | primitive _ | null => exact ⟨none, .notClass (by simp)⟩
  | ofClass start =>
      by_cases hnone : ∀ k, ∀ x ∈ t.level [start] k, ¬ t.Declares x name
      · by_cases hin : ∃ k, t.wellKnown.object ∈ t.level [start] k
        · exact ⟨none, .nowhere hnone hin⟩
        · exact ⟨_, .root hnone (not_exists.mp hin) (own_declaredMethod? _ name)⟩
      · -- Some level declares the name: stop the unrolling after it and take the first that does.
        simp only [not_forall, not_not] at hnone
        obtain ⟨k, x, hx, hdeclares⟩ := hnone
        have hmem : x ∈ t.unrolled start (k + 1) :=
          List.mem_flatMap.mpr ⟨k, List.mem_range.mpr (Nat.lt_succ_self k), hx⟩
        have hsome : (t.unrolled start (k + 1)).findSome? (t.declaredMethod? · name) ≠ none :=
          fun h => declaredMethod?_eq_none_iff.mp (List.findSome?_eq_none_iff.mp h x hmem) hdeclares
        obtain ⟨m, hm⟩ := Option.ne_none_iff_exists'.mp hsome
        obtain ⟨before, id, after, hsplit, hid, hbefore⟩ := List.findSome?_eq_some_iff.mp hm
        refine ⟨some m, .nearest hsplit (fun y hy => ?_) (declaredMethod?_eq_some_iff.mp hid)⟩
        exact declaredMethod?_eq_none_iff.mp (hbefore y hy)

/-- **Lookup is the plain reading of inheritance**: it finds the method that the first class of the
unrolled hierarchy declares, asks the root class if it is not in there, and finds none otherwise.
Nothing is assumed of the table: there may be diamonds, cycles, repeated supertypes and supertypes
that nothing defines. -/
theorem method?_eq_iff_found_in_unrolling (t : ClassTable) (ty : Ty) (name : String)
    (found : Option MethodDef) : t.method? ty name = found ↔ t.Found ty name found := by
  refine ⟨?_, Found.method?_eq⟩
  intro h
  obtain ⟨found', hfound⟩ := t.exists_found ty name
  rwa [← h, hfound.method?_eq]

end ClassTable

end JavaChecker
