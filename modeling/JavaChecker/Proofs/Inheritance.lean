import JavaChecker.ClassTable.Walk
import Mathlib.Logic.Relation

/-!
# JavaChecker.Proofs.Inheritance

The walk of the supertype graph against the graph itself.

`Ancestor` says that declared supertypes lead from one class to another, in finitely many steps
and with no mention of a queue. The main result, `mem_walk_iff`, is that the walk takes exactly
the ancestors of its start. Nothing is assumed of the table: supertypes may repeat, form cycles
and name classes that nothing defines.

* **Soundness** needs only that whatever enters the queue is a supertype of something taken.
* **Completeness** rests on `Frontier`, the loop invariant of the walk: a supertype of a taken
  class is taken itself or waits in the queue. So an identifier that is passed over because it
  was taken before costs no path, and when the queue is empty the taken identifiers are closed
  under supertypes.
-/

namespace JavaChecker

namespace ClassTable

variable {t : ClassTable}

/-! ### The supertype graph -/

/-- The direct supertypes an identifier leads to, in declaration order. An identifier that
nothing defines leads nowhere. -/
def supertypesOf (t : ClassTable) (id : ClassId) : List ClassId :=
  ((t.class? id).map (·.supertypes)).getD []

/-- One step up: the first identifier is defined, and its class declares the second as a direct
supertype. -/
def DirectSupertype (t : ClassTable) (sub sup : ClassId) : Prop :=
  ∃ c, t.class? sub = some c ∧ sup ∈ c.supertypes

/-- Declared supertypes lead from the first class to the second in finitely many steps, possibly
none. -/
def Ancestor (t : ClassTable) : ClassId → ClassId → Prop :=
  Relation.ReflTransGen t.DirectSupertype

theorem supertypesOf_defined {id : ClassId} {c : ClassDef} (h : t.class? id = some c) :
    t.supertypesOf id = c.supertypes := by
  rw [supertypesOf, h]
  rfl

theorem supertypesOf_undefined {id : ClassId} (h : t.class? id = none) :
    t.supertypesOf id = [] := by
  rw [supertypesOf, h]
  rfl

theorem mem_supertypesOf {sub sup : ClassId} :
    sup ∈ t.supertypesOf sub ↔ t.DirectSupertype sub sup := by
  cases hc : t.class? sub with
  | none => simp [supertypesOf_undefined hc, DirectSupertype, hc]
  | some c => simp [supertypesOf_defined hc, DirectSupertype, hc]

/-- An identifier that nothing defines has no ancestor but itself. -/
theorem ancestor_undefined_iff {a b : ClassId} (h : t.class? a = none) :
    t.Ancestor a b ↔ b = a := by
  refine Relation.reflTransGen_iff_eq ?_
  rintro sup ⟨c, hc, -⟩
  rw [h] at hc
  cases hc

/-! ### One step of the walk

A defined and an undefined identifier are taken alike once supertypes are read through
`supertypesOf`, so the walk has three cases and not four. -/

theorem walkFrom_fresh {id : ClassId} {rest seen : List ClassId} (h : id ∉ seen) :
    t.walkFrom (id :: rest) seen =
      id :: t.walkFrom (rest ++ t.supertypesOf id) (id :: seen) := by
  cases hc : t.class? id with
  | none => rw [walkFrom_undefined h hc, supertypesOf_undefined hc, List.append_nil]
  | some c => rw [walkFrom_defined h hc, supertypesOf_defined hc]

/-- Induction along the walk: over what is queued and what was taken. -/
theorem walk_induction {motive : List ClassId → List ClassId → Prop}
    (nil : ∀ seen, motive [] seen)
    (skip : ∀ id rest seen, id ∈ seen → motive rest seen → motive (id :: rest) seen)
    (take : ∀ id rest seen, id ∉ seen → motive (rest ++ t.supertypesOf id) (id :: seen) →
      motive (id :: rest) seen)
    (queue seen : List ClassId) : motive queue seen := by
  induction queue, seen using walkFrom.induct t with
  | case1 seen => exact nil seen
  | case2 seen id rest hs ih => exact skip id rest seen (by simpa using hs) ih
  | case3 seen id rest hs hc ih =>
      refine take id rest seen (by simpa using hs) ?_
      rwa [supertypesOf_undefined hc, List.append_nil]
  | case4 seen id rest hs c hc ih =>
      refine take id rest seen (by simpa using hs) ?_
      rwa [supertypesOf_defined hc]

/-! ### Soundness -/

/-- Whatever the walk takes from here on is an ancestor of something queued. -/
theorem exists_ancestor_of_mem_walkFrom {queue seen : List ClassId} {id : ClassId}
    (h : id ∈ t.walkFrom queue seen) : ∃ start ∈ queue, t.Ancestor start id := by
  induction queue, seen using walk_induction (t := t) with
  | nil seen =>
      rw [walkFrom_nil] at h
      cases h
  | skip head rest seen hs ih =>
      rw [walkFrom_seen hs] at h
      rcases List.mem_cons.mp h with rfl | h
      · exact ⟨id, List.mem_cons_self .., .refl⟩
      · obtain ⟨start, hstart, hanc⟩ := ih h
        exact ⟨start, List.mem_cons_of_mem _ hstart, hanc⟩
  | take head rest seen hs ih =>
      rw [walkFrom_fresh hs] at h
      rcases List.mem_cons.mp h with rfl | h
      · exact ⟨id, List.mem_cons_self .., .refl⟩
      · obtain ⟨start, hstart, hanc⟩ := ih h
        rcases List.mem_append.mp hstart with hrest | hsup
        · exact ⟨start, List.mem_cons_of_mem _ hrest, hanc⟩
        · exact ⟨head, List.mem_cons_self .., .head (mem_supertypesOf.mp hsup) hanc⟩

/-! ### Completeness -/

/-- What holds whenever the walk takes its next identifier: a direct supertype of a taken class
is taken or queued. -/
def Frontier (t : ClassTable) (queue seen : List ClassId) : Prop :=
  ∀ x ∈ seen, ∀ y ∈ t.supertypesOf x, y ∈ seen ∨ y ∈ queue

theorem Frontier.start (t : ClassTable) (queue : List ClassId) : t.Frontier queue [] := by
  intro x hx
  cases hx

theorem Frontier.skip {id : ClassId} {rest seen : List ClassId} (hs : id ∈ seen)
    (h : t.Frontier (id :: rest) seen) : t.Frontier rest seen := by
  intro x hx y hy
  rcases h x hx y hy with hseen | hqueue
  · exact .inl hseen
  · rcases List.mem_cons.mp hqueue with rfl | hrest
    -- The identifier that leaves the queue was taken before.
    · exact .inl hs
    · exact .inr hrest

theorem Frontier.take {id : ClassId} {rest seen : List ClassId}
    (h : t.Frontier (id :: rest) seen) :
    t.Frontier (rest ++ t.supertypesOf id) (id :: seen) := by
  intro x hx y hy
  rcases List.mem_cons.mp hx with rfl | hx
  -- The supertypes of the class just taken are what the step queues.
  · exact .inr (List.mem_append_right _ hy)
  · rcases h x hx y hy with hseen | hqueue
    · exact .inl (List.mem_cons_of_mem _ hseen)
    · rcases List.mem_cons.mp hqueue with rfl | hrest
      · exact .inl (List.mem_cons_self ..)
      · exact .inr (List.mem_append_left _ hrest)

/-- At its end the walk has taken every direct supertype of what it has taken. -/
theorem walkFrom_closed {queue seen : List ClassId} (hf : t.Frontier queue seen)
    {x y : ClassId} (hx : x ∈ seen ∨ x ∈ t.walkFrom queue seen) (hxy : t.DirectSupertype x y) :
    y ∈ seen ∨ y ∈ t.walkFrom queue seen := by
  induction queue, seen using walk_induction (t := t) with
  | nil seen =>
      rw [walkFrom_nil] at hx ⊢
      rcases hx with hx | hx
      · exact hf x hx y (mem_supertypesOf.mpr hxy)
      · cases hx
  | skip id rest seen hs ih =>
      rw [walkFrom_seen hs] at hx ⊢
      have hx' : x ∈ seen ∨ x ∈ t.walkFrom rest seen := by
        rcases hx with hx | hx
        · exact .inl hx
        · rcases List.mem_cons.mp hx with rfl | hx
          · exact .inl hs
          · exact .inr hx
      exact (ih (hf.skip hs) hx').imp_right (List.mem_cons_of_mem _)
  | take id rest seen hs ih =>
      rw [walkFrom_fresh hs] at hx ⊢
      have hx' : x ∈ id :: seen ∨ x ∈ t.walkFrom (rest ++ t.supertypesOf id) (id :: seen) := by
        rcases hx with hx | hx
        · exact .inl (List.mem_cons_of_mem _ hx)
        · rcases List.mem_cons.mp hx with rfl | hx
          · exact .inl (List.mem_cons_self ..)
          · exact .inr hx
      rcases ih hf.take hx' with hy | hy
      · rcases List.mem_cons.mp hy with rfl | hy
        · exact .inr (List.mem_cons_self ..)
        · exact .inl hy
      · exact .inr (List.mem_cons_of_mem _ hy)

/-- **The walk takes exactly the ancestors of its start.** -/
theorem mem_walk_iff {start id : ClassId} : id ∈ t.walk start ↔ t.Ancestor start id := by
  refine ⟨?_, ?_⟩
  · intro h
    obtain ⟨start', hstart, hanc⟩ := exists_ancestor_of_mem_walkFrom h
    rw [List.mem_singleton] at hstart
    exact hstart ▸ hanc
  · intro h
    -- Along the path, each next class is taken because the one before it was.
    induction h with
    | refl => exact t.mem_walk_self start
    | tail _ hstep ih =>
        rcases walkFrom_closed (Frontier.start t [start]) (.inr ih) hstep with h | h
        · cases h
        · exact h

end ClassTable

end JavaChecker
