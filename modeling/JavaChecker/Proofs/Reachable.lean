import JavaChecker.ClassTable.Basic

/-!
# JavaChecker.Proofs.Reachable

What the operations on a class table can do, and what therefore holds of every table they build.

`Change` says once what one operation can do to a table: nothing, a new class at the end, a new
definition in place, or a new definition in place under a new name. `change_apply` shows that it
covers `intern`, `add` and `define`, refused operations included, so that a fact about every
reachable table takes one case for each of the four and never opens an operation.
-/

namespace JavaChecker

namespace ClassTable

variable {t : ClassTable}

/-! ### What one operation can do -/

/-- The ways in which an operation changes a table. -/
inductive Change (t : ClassTable) : ClassTable → Prop where
  /-- Nothing happens: the operation was refused, or a known name was interned. -/
  | unchanged : Change t t
  /-- A class with a new name gets the next identifier. -/
  | append {id : ClassId} {c : ClassDef} :
      t.lookup? c.name = none → ClassId.ofIndex? t.size = some id →
      Change t { t with classes := t.classes.push c, index := t.index.insert c.name id }
  /-- A definition is replaced by one that belongs to the same name: the index gives the
  identifier for the name, or the replaced class has the name. -/
  | replace {id : ClassId} {c : ClassDef} :
      t.lookup? c.name = some id ∨
        (∃ current, t.class? id = some current ∧ current.name = c.name) →
      Change t (t.store id c)
  /-- A definition is replaced by one with another name, which no class has. -/
  | rename {id : ClassId} {c current : ClassDef} :
      t.class? id = some current → current.name ≠ c.name → t.lookup? c.name = none →
      Change t { t.store id c with index := (t.index.erase current.name).insert c.name id }

theorem push_setIfInBounds_size (classes : Array ClassDef) (old new : ClassDef) :
    (classes.push old).setIfInBounds classes.size new = classes.push new := by
  apply Array.ext'
  simp

theorem change_intern {name : String} {t' : ClassTable} {id : ClassId}
    (h : t.intern name = some (t', id)) : Change t t' := by
  unfold intern at h
  cases hl : t.lookup? name with
  | some known =>
      rw [hl] at h
      cases h
      exact .unchanged
  | none =>
      rw [hl] at h
      obtain ⟨next, hnext, hpair⟩ := Option.map_eq_some_iff.mp h
      cases hpair
      exact .append (c := .placeholder name) hl hnext

theorem change_add {c : ClassDef} {t' : ClassTable} {id : ClassId}
    (h : t.add c = some (t', id)) : Change t t' := by
  unfold add intern at h
  cases hl : t.lookup? c.name with
  | some known =>
      rw [hl] at h
      cases h
      exact .replace (.inl hl)
  | none =>
      rw [hl] at h
      simp only [Option.map_map, Option.map_eq_some_iff, Function.comp_apply] at h
      obtain ⟨next, hnext, hpair⟩ := h
      cases hpair
      -- The placeholder that `intern` appends is overwritten at once.
      have hindex : id.index = t.classes.size := ClassId.index_of_ofIndex? hnext
      simp only [store, hindex, push_setIfInBounds_size]
      exact .append hl hnext

theorem change_define {id : ClassId} {c : ClassDef} {t' : ClassTable}
    (h : t.define id c = .ok () t') : Change t t' := by
  cases defineStep h with
  | replaced hc hname => exact .replace (.inr ⟨_, hc, hname⟩)
  | renamed hc hname hl => exact .rename hc hname hl

theorem eq_of_define_error {id : ClassId} {c : ClassDef} {t' : ClassTable} {e : DefineError}
    (h : t.define id c = .error e t') : t' = t := by
  cases defineStep h <;> rfl

/-- Every operation, refused or not, is one of the four changes. -/
theorem change_apply (t : ClassTable) (op : Op) : Change t (t.apply op) := by
  cases op with
  | intern name =>
      cases h : t.intern name with
      | none => simpa [apply, h] using Change.unchanged
      | some r => simpa [apply, h] using change_intern h
  | add c =>
      cases h : t.add c with
      | none => simpa [apply, h] using Change.unchanged
      | some r => simpa [apply, h] using change_add h
  | define id c =>
      cases h : t.define id c with
      | error e t' => simpa [apply, h, eq_of_define_error h] using Change.unchanged
      | ok _ t' => simpa [apply, h] using change_define h

/-! ### What every change keeps

No operation moves a well-known identifier or makes a table smaller. -/

theorem Change.wellKnown_eq {t' : ClassTable} (h : Change t t') : t'.wellKnown = t.wellKnown := by
  cases h <;> rfl

theorem Change.size_le {t' : ClassTable} (h : Change t t') : t.size ≤ t'.size := by
  cases h with
  | unchanged => exact Nat.le_refl _
  | append _ _ => simp [size]
  | replace _ => exact Nat.le_of_eq (size_store ..).symm
  | rename _ _ _ => exact Nat.le_of_eq (size_store ..).symm

/-! ### What holds of every reachable table -/

theorem Reachable.wellKnown_eq (h : t.Reachable) :
    t.wellKnown = { object := ⟨0⟩, string := ⟨1⟩ } := by
  induction h with
  | initial => rfl
  | step op _ ih => rw [(change_apply _ op).wellKnown_eq, ih]

theorem Reachable.two_le_size (h : t.Reachable) : 2 ≤ t.size := by
  induction h with
  | initial => decide
  | step op _ ih => exact Nat.le_trans ih (change_apply _ op).size_le

theorem exists_class_of_index_lt {id : ClassId} (h : id.index < t.size) :
    ∃ c, t.class? id = some c :=
  ⟨t.classes[id.index], Array.getElem?_eq_getElem h⟩

theorem class?_eq_none_of_size_le {id : ClassId} (h : t.size ≤ id.index) : t.class? id = none :=
  Array.getElem?_eq_none h

/-- The root class of a reachable table is defined. -/
theorem Reachable.exists_object (h : t.Reachable) :
    ∃ c, t.class? t.wellKnown.object = some c := by
  apply exists_class_of_index_lt
  rw [h.wellKnown_eq]
  exact Nat.lt_of_lt_of_le (by decide) h.two_le_size

end ClassTable

end JavaChecker
