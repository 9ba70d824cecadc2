import JavaChecker.Proofs.Reachable

/-!
# JavaChecker.Proofs.Names

The classes of a table and its index by name are two accounts of the same thing, and no operation
looks at both. `Consistent` says that they agree: a name stands for an identifier exactly when the
class behind the identifier has the name. It is an invariant of every operation, of the one that
renames a class and of the one that writes a class without a look at the index
(`Change.consistent`), so it holds of every table that operations build (`Reachable.consistent`).

That names are distinct, that a class is found under its current name and that no former name is
left behind all follow from the one equivalence.
-/

namespace JavaChecker

namespace ClassTable

variable {t : ClassTable}

/-! ### The invariant -/

/-- The index and the classes agree, and no position is beyond the identifiers. -/
structure Consistent (t : ClassTable) : Prop where
  lookup?_iff : ∀ {name : String} {id : ClassId},
    t.lookup? name = some id ↔ ∃ c, t.class? id = some c ∧ c.name = name
  size_le : t.size ≤ ClassId.limit

theorem Consistent.lookup?_of_class? (h : t.Consistent) {id : ClassId} {c : ClassDef}
    (hc : t.class? id = some c) : t.lookup? c.name = some id :=
  h.lookup?_iff.mpr ⟨c, hc, rfl⟩

/-- No two classes have one name. -/
theorem Consistent.name_injective (h : t.Consistent) {a b : ClassId} {c d : ClassDef}
    (hc : t.class? a = some c) (hd : t.class? b = some d) (hname : c.name = d.name) : a = b := by
  have ha : t.lookup? d.name = some a := hname ▸ h.lookup?_of_class? hc
  rw [h.lookup?_of_class? hd] at ha
  exact (Option.some.inj ha).symm

/-- A name that no class has stands for nothing. -/
theorem Consistent.lookup?_eq_none_iff (h : t.Consistent) {name : String} :
    t.lookup? name = none ↔ ∀ id c, t.class? id = some c → c.name ≠ name := by
  refine ⟨?_, ?_⟩
  · intro hnone id c hc hname
    rw [h.lookup?_iff.mpr ⟨c, hc, hname⟩] at hnone
    cases hnone
  · intro hfree
    refine Option.eq_none_iff_forall_ne_some.mpr fun id hid => ?_
    obtain ⟨c, hc, hname⟩ := h.lookup?_iff.mp hid
    exact hfree id c hc hname

/-! ### What a change does to classes and names -/

theorem index_lt_of_class? {id : ClassId} {c : ClassDef} (h : t.class? id = some c) :
    id.index < t.size :=
  (Array.getElem?_eq_some_iff.mp h).1

/-- A class at the end of the table changes what the next identifier stands for, and only that. -/
theorem class?_push {id : ClassId} {c : ClassDef} {index : NameIndex}
    (hid : ClassId.ofIndex? t.size = some id) (other : ClassId) :
    ({ t with classes := t.classes.push c, index := index } : ClassTable).class? other =
      if other = id then some c else t.class? other := by
  have hsize : id.index = t.classes.size := ClassId.index_of_ofIndex? hid
  have hiff : other.index = t.classes.size ↔ other = id := by
    rw [← hsize]
    exact ⟨ClassId.index_injective, congrArg ClassId.index⟩
  simp only [class?, Array.getElem?_push, hiff]

theorem class?_next_eq_none {id : ClassId} (hid : ClassId.ofIndex? t.size = some id) :
    t.class? id = none :=
  class?_eq_none_of_size_le (Nat.le_of_eq (ClassId.index_of_ofIndex? hid).symm)

/-- Storing a definition where there is one changes what its identifier stands for. -/
theorem class?_store_of_defined {id : ClassId} {current : ClassDef}
    (hc : t.class? id = some current) (c : ClassDef) (other : ClassId) :
    (t.store id c).class? other = if other = id then some c else t.class? other := by
  rw [class?_store, hc, Option.map_some]

/-! ### The invariant along a run -/

theorem Consistent.append (h : t.Consistent) {id : ClassId} {c : ClassDef}
    (hfree : t.lookup? c.name = none) (hid : ClassId.ofIndex? t.size = some id) :
    ({ t with classes := t.classes.push c, index := t.index.insert c.name id } :
      ClassTable).Consistent where
  lookup?_iff := by
    intro name other
    rw [class?_push hid, lookup?, NameIndex.find?_insert, ← lookup?]
    by_cases hother : other = id
    · -- The new identifier: the table did not know it, so no name stood for it.
      subst hother
      have hold : t.lookup? name ≠ some other := by
        rw [Ne, h.lookup?_iff, class?_next_eq_none hid]
        simp
      by_cases hname : name = c.name
      · simp [hname]
      · simp [hname, hold, Ne.symm hname]
    · rw [if_neg hother, ← h.lookup?_iff]
      by_cases hname : name = c.name
      · simp [hname, hfree, Ne.symm hother]
      · rw [if_neg hname]
  size_le := by
    have hlt : id.index < ClassId.limit := id.index_lt_limit
    rw [ClassId.index_of_ofIndex? hid] at hlt
    simpa [size] using Nat.succ_le_of_lt hlt

theorem Consistent.replace (h : t.Consistent) {id : ClassId} {c current : ClassDef}
    (hc : t.class? id = some current) (hname : current.name = c.name) :
    (t.store id c).Consistent where
  lookup?_iff := by
    intro name other
    rw [lookup?_store, class?_store_of_defined hc, h.lookup?_iff]
    by_cases hother : other = id
    · simp [hother, hc, hname]
    · rw [if_neg hother]
  size_le := Nat.le_trans (Nat.le_of_eq (size_store t id c)) h.size_le

theorem Consistent.rename (h : t.Consistent) {id : ClassId} {c current : ClassDef}
    (hc : t.class? id = some current) (hfree : t.lookup? c.name = none) :
    ({ t.store id c with index := (t.index.erase current.name).insert c.name id } :
      ClassTable).Consistent where
  lookup?_iff := by
    intro name other
    change (NameIndex.insert _ c.name id).find? name = some other ↔
      ∃ d, (t.store id c).class? other = some d ∧ d.name = name
    rw [class?_store_of_defined hc, NameIndex.find?_insert, NameIndex.find?_erase, ← lookup?]
    have hcurrent : t.lookup? current.name = some id := h.lookup?_of_class? hc
    by_cases hother : other = id
    · -- The renamed class has the new name, and the former one is gone.
      subst hother
      have hlookup : t.lookup? name = some other ↔ name = current.name := by
        simp [h.lookup?_iff, hc, eq_comm]
      by_cases hnew : name = c.name
      · simp [hnew]
      · simp [hnew, Ne.symm hnew, hlookup]
    · rw [if_neg hother, ← h.lookup?_iff]
      by_cases hnew : name = c.name
      · simp [hnew, hfree, Ne.symm hother]
      · rw [if_neg hnew]
        by_cases hold : name = current.name
        · simp [hold, hcurrent, Ne.symm hother]
        · rw [if_neg hold]
  size_le := Nat.le_trans (Nat.le_of_eq (size_store t id c)) h.size_le

theorem Change.consistent {t' : ClassTable} (h : Change t t') (ht : t.Consistent) :
    t'.Consistent := by
  cases h with
  | unchanged => exact ht
  | append hfree hid => exact ht.append hfree hid
  | @replace id c hbelongs =>
      -- The index is right about the name, so both reasons for a replacement are the same one.
      have hsame : ∃ current, t.class? id = some current ∧ current.name = c.name :=
        hbelongs.elim ht.lookup?_iff.mp fun h => h
      obtain ⟨current, hc, hname⟩ := hsame
      exact ht.replace hc hname
  | rename hc _ hfree => exact ht.rename hc hfree

/-- The table without classes. The initial table adds the two well-known ones to it. -/
def bare : ClassTable := { classes := #[], index := .empty, wellKnown := initial.wellKnown }

theorem bare_consistent : bare.Consistent where
  lookup?_iff := by simp [bare, lookup?, class?]
  size_le := by decide

theorem initial_consistent : initial.Consistent := by
  have hobject : ClassTable.Consistent { bare with
      classes := bare.classes.push objectClass, index := bare.index.insert "Object" ⟨0⟩ } :=
    bare_consistent.append (c := objectClass) rfl rfl
  exact hobject.append (c := stringClass) (by decide) rfl

theorem Reachable.consistent (h : t.Reachable) : t.Consistent := by
  induction h with
  | initial => exact initial_consistent
  | step op _ ih => exact (change_apply _ op).consistent ih

/-! ### The classes in order -/

/-- The identifier that the listing gives to a position is the identifier of that position. -/
theorem Consistent.index_of_lt_size (h : t.Consistent) {i : Nat} (hi : i < t.size) :
    ClassId.index ⟨UInt32.ofNat i⟩ = i := by
  have hlt : i < ClassId.limit := Nat.lt_of_lt_of_le hi h.size_le
  exact ClassId.index_of_ofIndex? (by rw [ClassId.ofIndex?, if_pos hlt])

theorem Consistent.map_index_ids (h : t.Consistent) :
    t.ids.map ClassId.index = List.range t.size := by
  apply List.ext_getElem
  · simp [ids, toList, size]
  · intro i hi _
    simp only [ids, toList, List.map_map, List.getElem_map, List.getElem_mapIdx,
      Function.comp_apply, List.getElem_range]
    exact h.index_of_lt_size (by simpa [ids, toList, size] using hi)

theorem Consistent.class?_of_mem_toList (h : t.Consistent) {id : ClassId} {c : ClassDef}
    (hmem : (id, c) ∈ t.toList) : t.class? id = some c := by
  obtain ⟨i, hi, hentry⟩ := List.mem_mapIdx.mp hmem
  cases hentry
  have hindex : ClassId.index ⟨UInt32.ofNat i⟩ = i :=
    h.index_of_lt_size (by simpa [size] using hi)
  rw [class?, hindex, Array.getElem_toList]
  exact Array.getElem?_eq_getElem _

/-- In every table that operations build, refused ones and renamings of the well-known classes
included, a name is found exactly at the identifier of the one class that has it now. The two
well-known classes stay where they are, there are never more classes than identifiers, and the
listing goes through the identifiers from zero upwards and leaves none out. -/
theorem lookup?_finds_exactly_current_names (t : ClassTable) (h : t.Reachable) :
    (∀ name id, t.lookup? name = some id ↔
      id.index < t.size ∧ (t.class? id).map (·.name) = some name) ∧
    (∀ a b c d, t.class? a = some c → t.class? b = some d → c.name = d.name → a = b) ∧
    (∀ id c, t.class? id = some c → t.lookup? c.name = some id) ∧
    (∀ name, (∀ id c, t.class? id = some c → c.name ≠ name) → t.lookup? name = none) ∧
    (2 ≤ t.size ∧ t.size ≤ ClassId.limit) ∧
    (t.wellKnown = { object := ⟨0⟩, string := ⟨1⟩ } ∧
      (∃ c, t.class? t.wellKnown.object = some c) ∧ ∃ c, t.class? t.wellKnown.string = some c) ∧
    t.ids.map ClassId.index = List.range t.size ∧
    ∀ id c, (id, c) ∈ t.toList → t.class? id = some c := by
  have hcons : t.Consistent := h.consistent
  refine ⟨?_, ?_, ?_, ?_, ⟨h.two_le_size, hcons.size_le⟩, ⟨h.wellKnown_eq, h.exists_object, ?_⟩,
    hcons.map_index_ids, ?_⟩
  · intro name id
    rw [hcons.lookup?_iff, Option.map_eq_some_iff]
    refine ⟨?_, And.right⟩
    rintro ⟨c, hc, hname⟩
    exact ⟨index_lt_of_class? hc, c, hc, hname⟩
  · intro a b c d
    exact hcons.name_injective
  · intro id c
    exact hcons.lookup?_of_class?
  · intro name
    exact hcons.lookup?_eq_none_iff.mpr
  · apply exists_class_of_index_lt
    rw [h.wellKnown_eq]
    exact h.two_le_size
  · intro id c
    exact hcons.class?_of_mem_toList

/-- The initial table after its root class was renamed and another class got the name it had. -/
def rootRenamed : ClassTable :=
  (initial.apply (.define ⟨0⟩ { objectClass with name := "Top" })).apply (.intern "Object")

/-- Once the root is renamed, its former name is free for another class, and each of the two is
found under its own name. -/
theorem lookup?_finds_renamed_root :
    rootRenamed.Reachable ∧ rootRenamed.lookup? "Top" = some ⟨0⟩ ∧
      rootRenamed.lookup? "Object" = some ⟨2⟩ := by
  have hreach : rootRenamed.Reachable := .step _ (.step _ .initial)
  have hlookup := (lookup?_finds_exactly_current_names rootRenamed hreach).1
  exact ⟨hreach, (hlookup _ _).mpr ⟨by decide, by decide⟩, (hlookup _ _).mpr ⟨by decide, by decide⟩⟩

end ClassTable

end JavaChecker
