import JavaChecker.Proofs.Embedding
import JavaChecker.Proofs.Updates

/-!
# JavaChecker.Proofs.Renumbering

What a check says does not depend on how the classes are numbered, and whether it accepts does not
depend on what they are called.

Two tables that hold the same classes under the same names may still number them differently, for
instance because the classes were added in another order. `counterpart` takes an identifier of the
one to the identifier that the other gives to the same name. It is a renumbering as soon as every
class of the first table, with its identifiers replaced by their counterparts, is a class of the
second (`SameClasses.renumbers`): names are distinct within a table, so different classes have
different counterparts.
-/

namespace JavaChecker

/-- Both checks accept, or both reject with errors of one variant, with the same counts and the same
names of variables and methods. -/
structure SameVerdict (r s : Report) : Prop where
  accepted_iff : r.accepted = true ↔ s.accepted = true
  alike : ∀ err err', r.violation? = some err → s.violation? = some err' →
    TypeError.Alike (fun _ _ => True) err err'

theorem sameVerdict_of_rel {r s : Report}
    (h : Option.Rel (TypeError.Alike fun _ _ => True) r.violation? s.violation?) :
    SameVerdict r s := by
  have haccepted : r.violation?.isNone = s.violation?.isNone := by
    generalize r.violation? = v, s.violation? = w at h
    cases h <;> rfl
  refine ⟨by rw [Report.accepted, Report.accepted, haccepted], ?_⟩
  intro err err' hr hs
  rw [hr, hs] at h
  cases h with
  | some halike => exact halike

namespace ClassTable

variable {t t' u : ClassTable} {x : ClassId} {c : ClassDef}

/-! ### The same classes under another numbering -/

/-- The identifier that the second table gives to the name of a class of the first. -/
def counterpart (t u : ClassTable) (id : ClassId) : ClassId :=
  ((t.class? id).bind fun c => u.lookup? c.name).getD id

theorem counterpart_eq {y : ClassId} (hc : t.class? x = some c) (hy : u.lookup? c.name = some y) :
    t.counterpart u x = y := by
  rw [counterpart, hc, Option.bind_some, hy, Option.getD_some]

/-- Every class of the first table, with identifiers replaced by their counterparts, is a class of
the second. -/
def SameClasses (t u : ClassTable) : Prop :=
  ∀ c, t.Holds c → u.Holds (c.rename (t.counterpart u))

theorem SameClasses.class?_counterpart (h : SameClasses t u) (hu : u.Consistent)
    (hc : t.class? x = some c) :
    u.class? (t.counterpart u x) = some (c.rename (t.counterpart u)) := by
  obtain ⟨y, hy⟩ := h c ⟨x, hc⟩
  have hlookup : u.lookup? c.name = some y := by simpa using hu.lookup?_of_class? hy
  rw [counterpart_eq hc hlookup, hy]

theorem SameClasses.keepsNames (h : SameClasses t u) (hu : u.Consistent) :
    KeepsNames (t.counterpart u) t u :=
  fun _ _ hc => ⟨_, h.class?_counterpart hu hc, rfl⟩

theorem SameClasses.renumbers (h : SameClasses t u) (ht : t.Consistent) (hu : u.Consistent)
    (hobject : t.counterpart u t.wellKnown.object = u.wellKnown.object) :
    Renumbers (t.counterpart u) t u where
  object_eq := hobject
  injective := by
    rintro a b ⟨c, hc⟩ ⟨d, hd⟩ heq
    have hcd : some (c.rename (t.counterpart u)) = some (d.rename (t.counterpart u)) := by
      rw [← h.class?_counterpart hu hc, ← h.class?_counterpart hu hd, heq]
    have hname : (c.rename (t.counterpart u)).name = (d.rename (t.counterpart u)).name :=
      congrArg ClassDef.name (Option.some.inj hcd)
    exact ht.name_injective hc hd hname
  carries hc := ⟨_, h.class?_counterpart hu hc⟩

/-! ### Classes added in another order -/

/-- Whatever is added to a table, its own identifiers are their own counterparts. -/
theorem counterpart_addAll (hcons : t.Consistent) {cs ds : List ClassDef}
    (hcs : t.size + cs.length ≤ ClassId.limit) (hds : t.size + ds.length ≤ ClassId.limit)
    (hcons' : (t.addAll cs).Consistent) (hx : t.Defines x) :
    (t.addAll cs).counterpart (t.addAll ds) x = x := by
  obtain ⟨c, hc⟩ := hx
  have hname : t.lookup? c.name = some x := hcons.lookup?_of_class? hc
  -- The class may have been replaced, but by one with its name.
  obtain ⟨d, hd, hdname⟩ := hcons'.lookup?_iff.mp (lookup?_addAll hcons hcs hname)
  exact counterpart_eq hd (hdname ▸ lookup?_addAll hcons hds hname)

/-- The same classes added in another order, with identifiers replaced accordingly, give tables with
the same classes. -/
theorem sameClasses_addAll (hreach : t.Reachable) (hclosed : t.Closed) {cs ds : List ClassDef}
    (hnodup : (cs.map (·.name)).Nodup) (hsize : t.size + cs.length ≤ ClassId.limit)
    (hperm : ds.Perm (cs.map (ClassDef.rename ((t.addAll cs).counterpart (t.addAll ds))))) :
    SameClasses (t.addAll cs) (t.addAll ds) := by
  have hcons : t.Consistent := hreach.consistent
  have hnames : (ds.map (·.name)).Perm (cs.map (·.name)) := by
    simpa [Function.comp_def] using hperm.map (·.name)
  have hsize' : t.size + ds.length ≤ ClassId.limit := by simpa [hperm.length_eq] using hsize
  intro c hc
  rw [holds_addAll_iff hcons hnodup hsize] at hc
  rw [holds_addAll_iff hcons (hnames.nodup_iff.mpr hnodup) hsize', ClassDef.name_rename]
  rcases hc with hc | ⟨hname, x, hx⟩
  · exact .inl (hperm.mem_iff.mpr (List.mem_map_of_mem hc))
  · -- A former class mentions former identifiers, which all tables have in common.
    have hself : c.rename ((t.addAll cs).counterpart (t.addAll ds)) = c :=
      ClassDef.rename_eq_self (hclosed x c hx) fun y hy =>
        counterpart_addAll hcons hsize hsize' (hreach.addAll cs).consistent hy
    exact .inr ⟨mt hnames.mem_iff.mp hname, x, hself.symm ▸ hx⟩

theorem renumbers_addAll (hreach : t.Reachable) (hclosed : t.Closed) {cs ds : List ClassDef}
    (hnodup : (cs.map (·.name)).Nodup) (hsize : t.size + cs.length ≤ ClassId.limit)
    (hperm : ds.Perm (cs.map (ClassDef.rename ((t.addAll cs).counterpart (t.addAll ds))))) :
    Renumbers ((t.addAll cs).counterpart (t.addAll ds)) (t.addAll cs) (t.addAll ds) := by
  have hcs : (t.addAll cs).Reachable := hreach.addAll cs
  have hds : (t.addAll ds).Reachable := hreach.addAll ds
  have hsize' : t.size + ds.length ≤ ClassId.limit := by simpa [hperm.length_eq] using hsize
  refine (sameClasses_addAll hreach hclosed hnodup hsize hperm).renumbers
    hcs.consistent hds.consistent ?_
  rw [hcs.wellKnown_eq, hds.wellKnown_eq, ← hreach.wellKnown_eq]
  exact counterpart_addAll hreach.consistent hsize hsize' hcs.consistent hreach.exists_object

/-! ### A class under another name -/

/-- A class that is defined again under another name and with all else unchanged keeps its place in
the hierarchy. No identifier is left out here, undefined ones included. -/
theorem embeds_of_renamed {name : String} (hc : t.class? x = some c)
    (h : t.define x { c with name } = .ok () t') : Embeds (fun _ => True) id t t' where
  object_mem := trivial
  closed _ _ := ClassDef.within_of_forall (fun _ => trivial) _
  object_eq := by rw [(update_of_define h).2.wellKnown_eq, id]
  injective _ _ heq := heq
  class?_eq {y} _ := by
    rw [id, (update_of_define h).2.class?_eq]
    by_cases hy : y = x
    · exact ⟨name, by simp [hy, hc]⟩
    · rw [if_neg hy]
      cases hd : t.class? y with
      | none => exact ⟨"", rfl⟩
      | some d => exact ⟨d.name, by simp⟩

/-- A check and the check of the same expression under another numbering of the same classes end
alike: both accept, or both reject with the same kind of complaint; and where classes keep their
names, with the same error in every field. So classes may be added in any order, and on any table a
class may be renamed without any expression being accepted or rejected that was not before. -/
theorem check_ignores_numbering_and_names :
    (∀ (t u : ClassTable) (f : ClassId → ClassId), t.Reachable → t.Closed → Renumbers f t u →
      ∀ (p : Policy) (e : Expr), e.Within t.Defines →
        SameVerdict (check t p e) (check u p (e.rename f)) ∧
        (KeepsNames f t u →
          (check u p (e.rename f)).violation? = (check t p e).violation?)) ∧
    (∀ (t : ClassTable) (cs ds : List ClassDef), t.Reachable → t.Closed →
      (cs.map (·.name)).Nodup → t.size + cs.length ≤ ClassId.limit → (t.addAll cs).Closed →
      ds.Perm (cs.map (ClassDef.rename ((t.addAll cs).counterpart (t.addAll ds)))) →
      ∀ (p : Policy) (e : Expr), e.Within (t.addAll cs).Defines →
        (check (t.addAll ds) p (e.rename ((t.addAll cs).counterpart (t.addAll ds)))).violation? =
          (check (t.addAll cs) p e).violation?) ∧
    ∀ (t t' : ClassTable) (x : ClassId) (c : ClassDef) (name : String), t.class? x = some c →
      t.define x { c with name } = .ok () t' →
      ∀ (p : Policy) (e : Expr), SameVerdict (check t p e) (check t' p e) := by
  refine ⟨?_, ?_, ?_⟩
  · intro t u f hreach hclosed hnum p e he
    have hembeds : Embeds t.Defines f t u := hnum.embeds hreach.exists_object hclosed
    exact ⟨sameVerdict_of_rel (check_rename hembeds (rendersAlike_true ..) p he),
      fun hnames => violation?_check_rename hembeds hnames p he⟩
  · intro t cs ds hreach hclosed hnodup hsize hclosed' hperm p e he
    have hsame := sameClasses_addAll hreach hclosed hnodup hsize hperm
    have hnum := renumbers_addAll hreach hclosed hnodup hsize hperm
    have hroot := (hreach.addAll cs).exists_object
    exact violation?_check_rename (hnum.embeds hroot hclosed')
      (hsame.keepsNames (hreach.addAll ds).consistent) p he
  · intro t t' x c name hc h p e
    have hrel := check_rename (embeds_of_renamed hc h) (rendersAlike_true ..) p
      (e.within_of_forall fun _ => trivial)
    rw [Expr.rename_id] at hrel
    exact sameVerdict_of_rel hrel

/-- Two classes that mention each other, given the identifiers they are to have. -/
def shapes (shape circle : ClassId) : List ClassDef :=
  [{ name := "Shape", kind := .abstract,
     methods := [{ name := "touch", params := [.ofClass circle], returnType := .ofClass shape }] },
   { name := "Circle", kind := .concrete, supertypes := [shape],
     constructor? := some { params := [.ofClass shape] } }]

/-- The initial table with both classes, the shape first. -/
def shapeFirst : ClassTable := initial.addAll (shapes ⟨2⟩ ⟨3⟩)

/-- The initial table with both classes, the circle first. -/
def circleFirst : ClassTable := initial.addAll (shapes ⟨3⟩ ⟨2⟩).reverse

theorem shapes_perm : (shapes ⟨3⟩ ⟨2⟩).reverse.Perm
    ((shapes ⟨2⟩ ⟨3⟩).map (ClassDef.rename (shapeFirst.counterpart circleFirst))) := by
  decide

theorem shapeFirst_closed : shapeFirst.Closed := closed_of_forall_mem (by decide)

theorem shapeFirst_renumbers :
    Renumbers (shapeFirst.counterpart circleFirst) shapeFirst circleFirst :=
  renumbers_addAll .initial initial_closed (by decide) (by decide) shapes_perm

/-- A circle is made from one shape, whichever of the two classes was added first, and text from
nothing, whatever its class is called. -/
theorem check_ignores_order_of_shapes :
    shapeFirst.counterpart circleFirst ⟨2⟩ = ⟨3⟩ ∧
    (check shapeFirst .uniform (.new (.ofClass ⟨3⟩) [.null, .var "s" (.ofClass ⟨2⟩)])).accepted =
      false ∧
    SameVerdict
      (check shapeFirst .uniform (.new (.ofClass ⟨3⟩) [.null, .var "s" (.ofClass ⟨2⟩)]))
      (check circleFirst .uniform (.new (.ofClass ⟨2⟩) [.null, .var "s" (.ofClass ⟨3⟩)])) ∧
    (check circleFirst .uniform (.new (.ofClass ⟨2⟩) [.null, .var "s" (.ofClass ⟨3⟩)])).violation? =
      (check shapeFirst .uniform
        (.new (.ofClass ⟨3⟩) [.null, .var "s" (.ofClass ⟨2⟩)])).violation? ∧
    SameVerdict (check initial .uniform (.new (.ofClass ⟨1⟩) [.null]))
      (check (initial.apply (.define ⟨1⟩ { stringClass with name := "Text" })) .uniform
        (.new (.ofClass ⟨1⟩) [.null])) := by
  obtain ⟨hnumbering, horder, hname⟩ := check_ignores_numbering_and_names
  have hwithin : (Expr.new (.ofClass ⟨3⟩) [.null, .var "s" (.ofClass ⟨2⟩)]).Within
      shapeFirst.Defines := by
    refine .new ⟨_, rfl⟩ ?_
    simp only [List.forall_mem_cons]
    exact ⟨.null, .var ⟨_, rfl⟩, List.forall_mem_nil _⟩
  refine ⟨by decide, by decide, ?_, ?_, ?_⟩
  · exact (hnumbering shapeFirst circleFirst _ (Reachable.initial.addAll _) shapeFirst_closed
      shapeFirst_renumbers .uniform _ hwithin).1
  · exact horder initial _ _ .initial initial_closed (by decide) (by decide) shapeFirst_closed
      shapes_perm .uniform _ hwithin
  · exact hname initial _ ⟨1⟩ stringClass "Text" rfl rfl .uniform _

end ClassTable

end JavaChecker
