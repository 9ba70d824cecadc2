import JavaChecker.Proofs.Names

/-!
# JavaChecker.Proofs.Updates

What an operation writes. An operation that succeeds writes one class at one identifier and leaves
the others alone (`Update`), or, for a known name that is interned, writes nothing. Where the
written identifier comes from differs: `intern` and `add` take the one of the name or the next free
one, `define` takes the one it is given.

For several classes added one after the other, what matters is which classes the table holds in the
end. With distinct names these are the added ones and the former ones under other names
(`holds_addAll_iff`), in whatever order they were added.
-/

namespace JavaChecker

namespace ClassTable

variable {t t' : ClassTable} {id : ClassId} {c : ClassDef}

/-! ### One class is written -/

/-- The second table is the first with a class written at an identifier. -/
structure Update (t : ClassTable) (id : ClassId) (c : ClassDef) (t' : ClassTable) : Prop where
  wellKnown_eq : t'.wellKnown = t.wellKnown
  class?_eq : ∀ other, t'.class? other = if other = id then some c else t.class? other

theorem Update.class?_self (h : Update t id c t') : t'.class? id = some c := by
  rw [h.class?_eq, if_pos rfl]

theorem Update.class?_of_ne (h : Update t id c t') {other : ClassId} (hne : other ≠ id) :
    t'.class? other = t.class? other := by
  rw [h.class?_eq, if_neg hne]

/-- A known name is found again; a new one gets a placeholder at an identifier without a class. -/
theorem intern_cases {name : String} (h : t.intern name = some (t', id)) :
    (t' = t ∧ t.lookup? name = some id) ∨
      (t.class? id = none ∧ Update t id (.placeholder name) t') := by
  unfold intern at h
  cases hl : t.lookup? name with
  | some known =>
      rw [hl] at h
      cases h
      exact .inl ⟨rfl, rfl⟩
  | none =>
      rw [hl] at h
      obtain ⟨next, hnext, hpair⟩ := Option.map_eq_some_iff.mp h
      cases hpair
      exact .inr ⟨class?_next_eq_none hnext, rfl, class?_push hnext⟩

/-- A class is added where the class of its name is, or where there is none. -/
theorem update_of_add (hcons : t.Consistent) (h : t.add c = some (t', id)) :
    Update t id c t' ∧ ∀ current, t.class? id = some current → current.name = c.name := by
  obtain ⟨⟨t₁, id₁⟩, hintern, hpair⟩ := Option.map_eq_some_iff.mp h
  cases hpair
  rcases intern_cases hintern with ⟨rfl, hl⟩ | ⟨hnone, hupdate⟩
  · obtain ⟨current, hc, hname⟩ := hcons.lookup?_iff.mp hl
    refine ⟨⟨rfl, class?_store_of_defined hc c⟩, ?_⟩
    intro current' hc'
    exact Option.some.inj (hc.symm.trans hc') ▸ hname
  · -- The placeholder is overwritten at once.
    refine ⟨⟨hupdate.wellKnown_eq, fun other => ?_⟩, ?_⟩
    · rw [class?_store_of_defined hupdate.class?_self]
      by_cases hother : other = id
      · rw [if_pos hother, if_pos hother]
      · rw [if_neg hother, if_neg hother, hupdate.class?_of_ne hother]
    · intro current hc
      rw [hnone] at hc
      cases hc

theorem update_of_define (h : t.define id c = .ok () t') :
    (∃ current, t.class? id = some current) ∧ Update t id c t' := by
  cases defineStep h with
  | replaced hc => exact ⟨⟨_, hc⟩, rfl, class?_store_of_defined hc c⟩
  | renamed hc => exact ⟨⟨_, hc⟩, rfl, class?_store_of_defined hc c⟩

/-! ### Adding one class -/

/-- The table holds the class, under some identifier. -/
def Holds (t : ClassTable) (c : ClassDef) : Prop := ∃ id, t.class? id = some c

theorem exists_add (hsize : t.size < ClassId.limit) (c : ClassDef) :
    ∃ t' id, t.add c = some (t', id) := by
  unfold add intern
  cases t.lookup? c.name with
  | some known => exact ⟨_, _, rfl⟩
  | none =>
      rw [ClassId.ofIndex?, if_pos hsize]
      exact ⟨_, _, rfl⟩

theorem Change.size_le_succ (h : Change t t') : t'.size ≤ t.size + 1 := by
  cases h with
  | unchanged => exact Nat.le_succ _
  | append _ _ => simp [size]
  | replace _ | rename _ _ _ => exact Nat.le_trans (Nat.le_of_eq (size_store ..)) (Nat.le_succ _)

theorem holds_add_iff (hcons : t.Consistent) (h : t.add c = some (t', id)) {d : ClassDef} :
    t'.Holds d ↔ d = c ∨ (d.name ≠ c.name ∧ t.Holds d) := by
  obtain ⟨hupdate, hreplaced⟩ := update_of_add hcons h
  have hcons' : t'.Consistent := (change_add h).consistent hcons
  refine ⟨?_, ?_⟩
  · rintro ⟨x, hx⟩
    by_cases hid : x = id
    · rw [hid, hupdate.class?_self] at hx
      exact .inl (Option.some.inj hx).symm
    · refine .inr ⟨fun hname => hid (hcons'.name_injective hx hupdate.class?_self hname), x, ?_⟩
      rwa [hupdate.class?_of_ne hid] at hx
  · rintro (rfl | ⟨hname, x, hx⟩)
    · exact ⟨id, hupdate.class?_self⟩
    · -- A class under another name is not the one that is replaced.
      have hid : x ≠ id := fun hid => hname (hreplaced d (hid ▸ hx))
      exact ⟨x, by rw [hupdate.class?_of_ne hid, hx]⟩

/-- A name that stands for a class goes on to stand for the same identifier. -/
theorem lookup?_add (hcons : t.Consistent) (h : t.add c = some (t', id)) {name : String}
    {x : ClassId} (hx : t.lookup? name = some x) : t'.lookup? name = some x := by
  obtain ⟨hupdate, hreplaced⟩ := update_of_add hcons h
  have hcons' : t'.Consistent := (change_add h).consistent hcons
  obtain ⟨d, hd, rfl⟩ := hcons.lookup?_iff.mp hx
  by_cases hid : x = id
  · subst hid
    rw [hreplaced d hd]
    exact hcons'.lookup?_of_class? hupdate.class?_self
  · exact hcons'.lookup?_of_class? (by rw [hupdate.class?_of_ne hid, hd])

/-! ### Adding several classes -/

/-- The table after the classes were added one after the other. -/
def addAll (t : ClassTable) (cs : List ClassDef) : ClassTable :=
  cs.foldl (fun t c => t.apply (.add c)) t

/-- Where there is room for all classes, the first one is added and leaves room for the others. -/
theorem exists_add_of_room (hcons : t.Consistent) {cs : List ClassDef}
    (hsize : t.size + (c :: cs).length ≤ ClassId.limit) :
    ∃ t' id, t.add c = some (t', id) ∧ t'.Consistent ∧ t'.size + cs.length ≤ ClassId.limit ∧
      t.addAll (c :: cs) = t'.addAll cs := by
  rw [List.length_cons] at hsize
  obtain ⟨t', id, hadd⟩ := exists_add (t := t) (by omega) c
  have hgrown : t'.size ≤ t.size + 1 := (change_add hadd).size_le_succ
  exact ⟨t', id, hadd, (change_add hadd).consistent hcons, by omega, by simp [addAll, apply, hadd]⟩

theorem Reachable.addAll (h : t.Reachable) (cs : List ClassDef) : (t.addAll cs).Reachable := by
  induction cs generalizing t with
  | nil => exact h
  | cons c cs ih => exact ih (h.step (.add c))

theorem lookup?_addAll (hcons : t.Consistent) {cs : List ClassDef}
    (hsize : t.size + cs.length ≤ ClassId.limit) {name : String} {x : ClassId}
    (hx : t.lookup? name = some x) : (t.addAll cs).lookup? name = some x := by
  induction cs generalizing t with
  | nil => exact hx
  | cons c cs ih =>
      obtain ⟨t', id, hadd, hcons', hroom, heq⟩ := exists_add_of_room hcons hsize
      rw [heq]
      exact ih hcons' hroom (lookup?_add hcons hadd hx)

/-- **After classes with distinct names were added, the table holds these, and of the former ones
those with other names.** -/
theorem holds_addAll_iff (hcons : t.Consistent) {cs : List ClassDef}
    (hnodup : (cs.map (·.name)).Nodup) (hsize : t.size + cs.length ≤ ClassId.limit)
    {d : ClassDef} :
    (t.addAll cs).Holds d ↔ d ∈ cs ∨ (d.name ∉ cs.map (·.name) ∧ t.Holds d) := by
  induction cs generalizing t with
  | nil => simp [addAll]
  | cons c cs ih =>
      rw [List.map_cons, List.nodup_cons] at hnodup
      obtain ⟨t', id, hadd, hcons', hroom, heq⟩ := exists_add_of_room hcons hsize
      rw [heq, ih hcons' hnodup.2 hroom, holds_add_iff hcons hadd, List.map_cons, List.mem_cons,
        List.mem_cons, not_or]
      refine ⟨?_, ?_⟩
      · rintro (hd | ⟨hname, rfl | ⟨hne, hold⟩⟩)
        · exact .inl (.inr hd)
        · exact .inl (.inl rfl)
        · exact .inr ⟨⟨hne, hname⟩, hold⟩
      · rintro ((rfl | hd) | ⟨⟨hne, hname⟩, hold⟩)
        -- A class added later has another name, so the first one is still there.
        · exact .inr ⟨hnodup.1, .inl rfl⟩
        · exact .inl hd
        · exact .inr ⟨hname, .inr ⟨hne, hold⟩⟩

end ClassTable

end JavaChecker
