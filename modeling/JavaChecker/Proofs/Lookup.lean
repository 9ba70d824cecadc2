import JavaChecker.ClassTable.Member
import JavaChecker.Proofs.Inheritance
import Mathlib.Data.Nat.Find

/-!
# JavaChecker.Proofs.Lookup

Which method a call finds, read off the hierarchy instead of a search.

The levels of a class are the plain unrolling of its hierarchy: the class itself, then its direct
supertypes, then theirs, each list in declaration order and nothing left out for having occurred
before. Levels repeat classes freely, and on a cycle there is no last one. `Resolves` describes
the method a call finds by levels: the nearest class that declares the name wins, the leftmost on
its level, and the root class is asked last.

`method?_eq_some_iff` shows that the search finds that method. The search differs from the
unrolling in passing over what it has taken before, with everything above it. To compare the two,
`plainWalk` runs the search without that shortcut, which lists the levels one after the other, and
`Thin` relates the two queues along the way: what the search leaves out was taken before or stands
earlier in its own queue, so it is never the first to declare anything.

Constructors are not inherited, so `Constructs` looks at one class only.
-/

namespace JavaChecker

namespace ClassTable

variable {t : ClassTable}

/-! ### Levels -/

/-- The classes a number of steps above the given ones, with repetitions: the supertypes of each
class of the level below, in order. -/
def level (t : ClassTable) (start : List ClassId) : Nat → List ClassId
  | 0 => start
  | k + 1 => (level t start k).flatMap t.supertypesOf

theorem level_flatMap (start : List ClassId) (k : Nat) :
    t.level (start.flatMap t.supertypesOf) k = t.level start (k + 1) := by
  induction k with
  | zero => rfl
  | succ k ih =>
      rw [level, ih]
      rfl

/-- The levels of a class hold its ancestors, and nothing else. -/
theorem exists_mem_level_iff {start id : ClassId} :
    (∃ k, id ∈ t.level [start] k) ↔ t.Ancestor start id := by
  refine ⟨?_, ?_⟩
  · rintro ⟨k, h⟩
    induction k generalizing id with
    | zero =>
        rw [level, List.mem_singleton] at h
        exact h ▸ .refl
    | succ k ih =>
        obtain ⟨below, hbelow, hsup⟩ := List.mem_flatMap.mp h
        exact (ih hbelow).tail (mem_supertypesOf.mp hsup)
  · intro h
    induction h with
    | refl => exact ⟨0, List.mem_singleton_self start⟩
    | tail _ hstep ih =>
        obtain ⟨k, hk⟩ := ih
        exact ⟨k + 1, List.mem_flatMap.mpr ⟨_, hk, mem_supertypesOf.mpr hstep⟩⟩

/-! ### Resolution -/

/-- The method that a call of this name on a value of the type finds. -/
inductive Resolves (t : ClassTable) : Ty → String → MethodDef → Prop where
  /-- The nearest class that declares the name: no class of a lower level declares it, and no
  class to the left on the same level. -/
  | nearest {start id : ClassId} {name : String} {m : MethodDef} {k : Nat}
      {left right : List ClassId} :
      (∀ j < k, ∀ x ∈ t.level [start] j, t.declaredMethod? x name = none) →
      t.level [start] k = left ++ id :: right →
      (∀ x ∈ left, t.declaredMethod? x name = none) →
      t.declaredMethod? id name = some m →
      Resolves t (.ofClass start) name m
  /-- No class of any level declares the name, but the root class does. -/
  | root {start : ClassId} {name : String} {m : MethodDef} :
      (∀ k, ∀ x ∈ t.level [start] k, t.declaredMethod? x name = none) →
      t.declaredMethod? t.wellKnown.object name = some m →
      Resolves t (.ofClass start) name m

/-! ### The walk without memory -/

/-- The first identifiers that the walk would take if it never passed one over. -/
def plainWalk (t : ClassTable) : Nat → List ClassId → List ClassId
  | 0, _ => []
  | _ + 1, [] => []
  | n + 1, id :: rest => id :: plainWalk t n (rest ++ t.supertypesOf id)

theorem plainWalk_append (front back : List ClassId) (n : Nat) :
    t.plainWalk (front.length + n) (front ++ back) =
      front ++ t.plainWalk n (back ++ front.flatMap t.supertypesOf) := by
  induction front generalizing back with
  | nil => simp
  | cons id front ih =>
      have hlen : (id :: front).length + n = (front.length + n) + 1 := by
        rw [List.length_cons]
        omega
      rw [hlen, List.cons_append, plainWalk, List.append_assoc, ih, List.append_assoc,
        List.flatMap_cons, List.cons_append]

/-- The walk without memory takes level after level. -/
theorem exists_plainWalk_eq_levels (start : List ClassId) (k : Nat) :
    ∃ n, t.plainWalk n start = (List.range k).flatMap (t.level start) := by
  induction k generalizing start with
  | zero => exact ⟨0, rfl⟩
  | succ k ih =>
      obtain ⟨n, hn⟩ := ih (start.flatMap t.supertypesOf)
      -- The first level is taken whole; what is queued then is the next one.
      refine ⟨start.length + n, ?_⟩
      have hstep := t.plainWalk_append start [] n
      rw [List.append_nil, List.nil_append, hn] at hstep
      have hup : t.level (start.flatMap t.supertypesOf) = fun k => t.level start (k + 1) :=
        funext (level_flatMap start)
      rw [hstep, hup, List.range_succ_eq_map, List.flatMap_cons, List.flatMap_map]
      rfl

/-! ### Leaving out what was taken before -/

/-- The first queue is the second one without some identifiers that were taken before or that
stand earlier in the first queue. -/
inductive Thin : List ClassId → List ClassId → List ClassId → Prop where
  | nil {seen : List ClassId} : Thin seen [] []
  | keep {id : ClassId} {seen queue full : List ClassId} :
      Thin (id :: seen) queue full → Thin seen (id :: queue) (id :: full)
  | drop {id : ClassId} {seen queue full : List ClassId} :
      id ∈ seen → Thin seen queue full → Thin seen queue (id :: full)

theorem Thin.refl (seen queue : List ClassId) : Thin seen queue queue := by
  induction queue generalizing seen with
  | nil => exact .nil
  | cons id queue ih => exact .keep (ih (id :: seen))

theorem Thin.mono {seen seen' queue full : List ClassId} (h : Thin seen queue full)
    (hsub : seen ⊆ seen') : Thin seen' queue full := by
  induction h generalizing seen' with
  | nil => exact .nil
  | keep _ ih => exact .keep (ih (List.cons_subset_cons _ hsub))
  | drop hid _ ih => exact .drop (hsub hid) (ih hsub)

theorem Thin.append {seen queue full : List ClassId} (h : Thin seen queue full)
    (more : List ClassId) : Thin seen (queue ++ more) (full ++ more) := by
  induction h with
  | nil => exact .refl _ more
  | keep _ ih => exact .keep ih
  | drop hid _ ih => exact .drop hid ih

/-- The full queue alone may grow by identifiers that were taken or are queued. -/
theorem Thin.append_known {seen queue full more : List ClassId} (h : Thin seen queue full)
    (hmore : ∀ x ∈ more, x ∈ seen ∨ x ∈ queue) : Thin seen queue (full ++ more) := by
  induction h with
  | @nil seen =>
      induction more with
      | nil => exact .nil
      | cons x more ih =>
          have hx : x ∈ seen := by simpa using hmore x (List.mem_cons_self ..)
          exact .drop hx (ih fun y hy => hmore y (List.mem_cons_of_mem _ hy))
  | @keep id seen queue full _ ih =>
      refine .keep (ih ?_)
      intro x hx
      rcases hmore x hx with hseen | hqueue
      · exact .inl (List.mem_cons_of_mem _ hseen)
      · rcases List.mem_cons.mp hqueue with rfl | hqueue
        · exact .inl (List.mem_cons_self ..)
        · exact .inr hqueue
  | drop hid _ ih => exact .drop hid (ih hmore)

/-- **The search and the walk without memory find the same.** The induction is on the number of
identifiers the walk without memory takes; it carries that what was taken so far has nothing to
find, that the search's queue is thin, and the frontier of the search. -/
theorem findSome?_walkFrom_of_plainWalk {α : Type} {f : ClassId → Option α} {a : α} {n : Nat}
    {queue full seen : List ClassId} (hthin : Thin seen queue full)
    (hf : t.Frontier queue seen) (hnone : ∀ x ∈ seen, f x = none)
    (h : (t.plainWalk n full).findSome? f = some a) :
    (t.walkFrom queue seen).findSome? f = some a := by
  induction n generalizing queue full seen with
  | zero => cases h
  | succ n ih =>
      cases hthin with
      | nil => cases h
      | @drop id _ _ full hid hthin =>
          -- The search left `id` out: its supertypes are taken or queued already.
          rw [plainWalk, List.findSome?_cons, hnone id hid] at h
          exact ih (hthin.append_known (hf id hid)) hf hnone h
      | @keep id _ queue full hthin =>
          rw [plainWalk, List.findSome?_cons] at h
          by_cases hid : id ∈ seen
          · -- Both take `id`, but only the walk without memory queues its supertypes again.
            rw [hnone id hid] at h
            rw [walkFrom_seen hid, List.findSome?_cons, hnone id hid]
            have hthin' : Thin seen queue full :=
              hthin.mono (List.cons_subset.mpr ⟨hid, List.Subset.refl _⟩)
            have hf' : t.Frontier queue seen := hf.skip hid
            exact ih (hthin'.append_known (hf' id hid)) hf' hnone h
          · rw [walkFrom_fresh hid, List.findSome?_cons]
            cases hfid : f id with
            | some b => rwa [hfid] at h
            | none =>
                rw [hfid] at h
                refine ih (hthin.append _) hf.take ?_ h
                intro x hx
                rcases List.mem_cons.mp hx with rfl | hx
                · exact hfid
                · exact hnone x hx

/-! ### The search finds what the hierarchy says -/

theorem findSome?_walk_eq_none_iff {start : ClassId} {name : String} :
    (t.walk start).findSome? (t.declaredMethod? · name) = none ↔
      ∀ k, ∀ x ∈ t.level [start] k, t.declaredMethod? x name = none := by
  simp only [List.findSome?_eq_none_iff, mem_walk_iff, ← exists_mem_level_iff]
  exact ⟨fun h k x hx => h x ⟨k, hx⟩, fun h x ⟨k, hx⟩ => h k x hx⟩

/-- What the first levels have to find, the search finds. -/
theorem findSome?_walk_of_levels {α : Type} {f : ClassId → Option α} {a : α} {start : ClassId}
    {n : Nat} (h : ((List.range n).flatMap (t.level [start])).findSome? f = some a) :
    (t.walk start).findSome? f = some a := by
  obtain ⟨steps, hsteps⟩ := t.exists_plainWalk_eq_levels [start] n
  exact findSome?_walkFrom_of_plainWalk (n := steps) (.refl [] [start]) (.start t [start])
    (fun x hx => absurd hx List.not_mem_nil) (hsteps ▸ h)

theorem findSome?_walk_of_level {start id : ClassId} {name : String} {m : MethodDef} {k : Nat}
    {left right : List ClassId}
    (hlower : ∀ j < k, ∀ x ∈ t.level [start] j, t.declaredMethod? x name = none)
    (hlevel : t.level [start] k = left ++ id :: right)
    (hleft : ∀ x ∈ left, t.declaredMethod? x name = none)
    (hid : t.declaredMethod? id name = some m) :
    (t.walk start).findSome? (t.declaredMethod? · name) = some m := by
  refine findSome?_walk_of_levels (n := k + 1) ?_
  rw [List.range_succ, List.flatMap_append, List.flatMap_singleton, hlevel,
    ← List.append_assoc, List.findSome?_eq_some_iff]
  refine ⟨_, id, right, rfl, hid, ?_⟩
  intro x hx
  rcases List.mem_append.mp hx with hx | hx
  · obtain ⟨j, hj, hx⟩ := List.mem_flatMap.mp hx
    exact hlower j (List.mem_range.mp hj) x hx
  · exact hleft x hx

/-- If any class of any level declares the name, one of them does so first. -/
theorem exists_first_level {start x : ClassId} {name : String} {k : Nat}
    (hx : x ∈ t.level [start] k) (hm : t.declaredMethod? x name ≠ none) :
    ∃ j left id right m, (∀ i < j, ∀ y ∈ t.level [start] i, t.declaredMethod? y name = none) ∧
      t.level [start] j = left ++ id :: right ∧
      (∀ y ∈ left, t.declaredMethod? y name = none) ∧ t.declaredMethod? id name = some m := by
  classical
  have hex : ∃ j, (t.level [start] j).findSome? (t.declaredMethod? · name) ≠ none :=
    ⟨k, fun h => hm (List.findSome?_eq_none_iff.mp h x hx)⟩
  obtain ⟨m, hfound⟩ := Option.ne_none_iff_exists'.mp (Nat.find_spec hex)
  obtain ⟨left, id, right, hlevel, hid, hleft⟩ := List.findSome?_eq_some_iff.mp hfound
  refine ⟨Nat.find hex, left, id, right, m, ?_, hlevel, hleft, hid⟩
  intro i hi y hy
  exact List.findSome?_eq_none_iff.mp (not_not.mp (Nat.find_min hex hi)) y hy

/-- **Lookup finds the method that the hierarchy says**, on every table and for every type. -/
theorem method?_eq_some_iff {ty : Ty} {name : String} {m : MethodDef} :
    t.method? ty name = some m ↔ t.Resolves ty name m := by
  refine ⟨?_, ?_⟩
  · intro h
    cases ty with
    | void | primitive _ | null => cases h
    | ofClass start =>
        unfold method? at h
        dsimp only at h
        split at h
        · next m' hfound =>
            -- Some level declares the name; what the first one declares is what was found.
            cases h
            obtain ⟨x, hx, hm⟩ := List.exists_of_findSome?_eq_some hfound
            obtain ⟨k, hk⟩ := exists_mem_level_iff.mpr (mem_walk_iff.mp hx)
            obtain ⟨j, left, id, right, m', hlower, hlevel, hleft, hid⟩ :=
              exists_first_level hk (by rw [hm]; simp)
            have hsame := findSome?_walk_of_level hlower hlevel hleft hid
            rw [hfound] at hsame
            cases hsame
            exact .nearest hlower hlevel hleft hid
        · next hnone =>
            split at h
            · cases h
            · exact .root (findSome?_walk_eq_none_iff.mp hnone) h
  · intro h
    cases h with
    | nearest hlower hlevel hleft hid =>
        rw [method?, findSome?_walk_of_level hlower hlevel hleft hid]
    | @root start _ _ hnone hroot =>
        have hout : t.wellKnown.object ∉ t.walk start := by
          intro hin
          obtain ⟨k, hk⟩ := exists_mem_level_iff.mpr (mem_walk_iff.mp hin)
          rw [hnone k _ hk] at hroot
          cases hroot
        rw [method?, findSome?_walk_eq_none_iff.mpr hnone]
        simpa [hout] using hroot

/-- What a call finds is declared by an ancestor of the class or by the root class. -/
theorem Resolves.exists_declared {start : ClassId} {name : String} {m : MethodDef}
    (h : t.Resolves (.ofClass start) name m) :
    ∃ id, (t.Ancestor start id ∨ id = t.wellKnown.object) ∧
      t.declaredMethod? id name = some m := by
  cases h with
  | @nearest _ id _ _ k left right _ hlevel _ hid =>
      have hmem : id ∈ t.level [start] k := by simp [hlevel]
      exact ⟨id, .inl (exists_mem_level_iff.mp ⟨k, hmem⟩), hid⟩
  | root _ hroot => exact ⟨_, .inr rfl, hroot⟩

theorem method?_eq_none_iff {ty : Ty} {name : String} :
    t.method? ty name = none ↔ ∀ m, ¬ t.Resolves ty name m := by
  simp only [Option.eq_none_iff_forall_ne_some, ne_eq, method?_eq_some_iff]

/-! ### Constructors -/

/-- A type that can be instantiated: a defined, concrete class. -/
def Instantiable (t : ClassTable) (ty : Ty) : Prop :=
  ∃ id c, ty = .ofClass id ∧ t.class? id = some c ∧ c.kind = .concrete

/-- The parameters of the constructor with which a type is instantiated. -/
inductive Constructs (t : ClassTable) : Ty → List Ty → Prop where
  /-- The class declares its constructor. -/
  | declared {id : ClassId} {c : ClassDef} {k : ConstructorDef} :
      t.class? id = some c → c.kind = .concrete → c.constructor? = some k →
      Constructs t (.ofClass id) k.params
  /-- The class declares none and has the implicit one, without parameters. -/
  | implicit {id : ClassId} {c : ClassDef} :
      t.class? id = some c → c.kind = .concrete → c.constructor? = none →
      Constructs t (.ofClass id) []

theorem isInstantiable_iff {ty : Ty} : t.isInstantiable ty = true ↔ t.Instantiable ty := by
  cases ty with
  | void | primitive _ | null => simp [isInstantiable, Instantiable]
  | ofClass id => simp [isInstantiable, Instantiable, Option.any_eq_true]

theorem Instantiable.exists_constructs {ty : Ty} (h : t.Instantiable ty) :
    ∃ params, t.Constructs ty params := by
  obtain ⟨id, c, rfl, hc, hkind⟩ := h
  cases hk : c.constructor? with
  | none => exact ⟨[], .implicit hc hkind hk⟩
  | some k => exact ⟨k.params, .declared hc hkind hk⟩

/-- The constructor of an instantiable type is the one that the lookup gives. -/
theorem constructs_iff {ty : Ty} {params : List Ty} :
    t.Constructs ty params ↔ t.Instantiable ty ∧ t.constructor? ty = some { params } := by
  refine ⟨?_, ?_⟩
  · intro h
    cases h with
    | @declared id c k hc hkind hk =>
        refine ⟨⟨id, c, rfl, hc, hkind⟩, ?_⟩
        rw [constructor?, hc, Option.map_some, ClassDef.instantiator, hk]
        rfl
    | @implicit id c hc hkind hk =>
        refine ⟨⟨id, c, rfl, hc, hkind⟩, ?_⟩
        rw [constructor?, hc, Option.map_some, ClassDef.instantiator, hk]
        rfl
  · rintro ⟨⟨id, c, rfl, hc, hkind⟩, h⟩
    rw [constructor?, hc, Option.map_some, ClassDef.instantiator] at h
    cases hk : c.constructor? with
    | none =>
        rw [hk] at h
        cases h
        exact .implicit hc hkind hk
    | some k =>
        rw [hk] at h
        cases h
        exact .declared hc hkind hk

end ClassTable

end JavaChecker
