import JavaChecker.Proofs.Replacement

/-!
# JavaChecker.Proofs.Regrouping

Calls on assignments, and assignments of calls. Without parentheses the two read alike, so a call on
an assignment is read as the assignment of the call. `Regroups` is this change of reading at one
place of an expression, and `Expr.norm` makes it wherever it can be made, repeatedly for a receiver
that is a chain of assignments.

However one goes about it, regrouping ends with the same expression: one step does not change what
`norm` gives (`Regroups.norm_eq`), and in what it gives no step is left (`not_regroups_norm`).
-/

namespace JavaChecker

open Relation (ReflTransGen)

namespace Expr

/-! ### One place -/

/-- Somewhere in the expression the call on an assignment becomes the assignment of the call. -/
inductive Regroups : Expr → Expr → Prop where
  | step (place : Place) (name : String) (ty : Ty) (rhs : Expr) (method : String)
      (args : List Expr) :
      Regroups (place.plug (.call (.assign name ty rhs) method args))
        (place.plug (.assign name ty (.call rhs method args)))

theorem plug_concat (place : Place) (f : Frame) (e : Expr) :
    Place.plug (place ++ [f]) e = f.fill (place.plug e) := by
  induction place generalizing e with
  | nil => rfl
  | cons g place ih => exact ih (g.fill e)

theorem Regroups.fill {e e' : Expr} (h : Regroups e e') (f : Frame) :
    Regroups (f.fill e) (f.fill e') := by
  obtain ⟨place, name, ty, rhs, method, args⟩ := h
  rw [← plug_concat, ← plug_concat]
  exact .step (place ++ [f]) name ty rhs method args

theorem regroups_fill {e e' : Expr} (h : ReflTransGen Regroups e e') (f : Frame) :
    ReflTransGen Regroups (f.fill e) (f.fill e') :=
  h.lift f.fill fun _ _ step => step.fill f

/-- Several arguments are regrouped one after the other. -/
theorem regroups_all (node : List Expr → Expr)
    (hnode : ∀ before after, ∃ f : Frame, ∀ e, f.fill e = node (before ++ e :: after))
    (norm : Expr → Expr) (before : List Expr) {args : List Expr}
    (h : ∀ e ∈ args, ReflTransGen Regroups e (norm e)) :
    ReflTransGen Regroups (node (before ++ args)) (node (before ++ args.map norm)) := by
  induction args generalizing before with
  | nil => exact .refl
  | cons e args ih =>
      rw [List.forall_mem_cons] at h
      -- The arguments before this one are regrouped already, and those after it are as given.
      obtain ⟨f, hf⟩ := hnode before args
      have hfirst := regroups_fill h.1 f
      have hothers := ih (before ++ [norm e]) h.2
      rw [hf, hf] at hfirst
      simp only [List.append_assoc, List.singleton_append] at hothers
      exact hfirst.trans hothers

/-! ### All places -/

/-- The call of a method, moved inside the assignments that the receiver begins with. -/
def callInside (method : String) (args : List Expr) : Expr → Expr
  | .assign name ty rhs => .assign name ty (callInside method args rhs)
  | e => .call e method args

mutual

/-- The expression with all calls on assignments regrouped. -/
def norm : Expr → Expr
  | .var name ty => .var name ty
  | .lit text ty => .lit text ty
  | .null => .null
  | .assign name ty rhs => .assign name ty (norm rhs)
  | .call receiver method args => callInside method (normAll args) (norm receiver)
  | .new ty args => .new ty (normAll args)

def normAll : List Expr → List Expr
  | [] => []
  | e :: es => norm e :: normAll es

end

theorem normAll_eq_map (es : List Expr) : normAll es = es.map norm := by
  induction es with
  | nil => rfl
  | cons e es ih => rw [normAll, ih, List.map_cons]

theorem regroups_callInside (method : String) (args : List Expr) (e : Expr) :
    ReflTransGen Regroups (.call e method args) (callInside method args e) := by
  induction e using children_induction with
  | node e ih =>
      cases e with
      | assign name ty rhs =>
          have hstep := Regroups.step [] name ty rhs method args
          have hinside := regroups_fill (ih rhs (List.mem_singleton.mpr rfl)) (.value name ty)
          exact .head hstep hinside
      | var | lit | null | call | new => exact .refl

/-- Regrouping leads to the expression in which nothing is left to regroup. -/
theorem regroups_norm (e : Expr) : ReflTransGen Regroups e e.norm := by
  induction e using children_induction with
  | node e ih =>
      cases e with
      | var | lit | null => exact .refl
      | assign name ty rhs =>
          exact regroups_fill (ih rhs (List.mem_singleton.mpr rfl)) (.value name ty)
      | call receiver method args =>
          rw [norm, normAll_eq_map]
          have hreceiver := regroups_fill (ih receiver (List.mem_cons_self ..))
            (.receiver method args)
          have hargs := regroups_all (.call receiver.norm method)
            (fun before after => ⟨.argument receiver.norm method before after, fun _ => rfl⟩)
            norm [] fun a ha => ih a (List.mem_cons_of_mem _ ha)
          exact (hreceiver.trans hargs).trans (regroups_callInside method _ receiver.norm)
      | new ty args =>
          rw [norm, normAll_eq_map]
          exact regroups_all (.new ty)
            (fun before after => ⟨.newArgument ty before after, fun _ => rfl⟩) norm [] ih

/-! ### Nothing is left -/

/-- No call in the expression is on an assignment. -/
inductive Settled : Expr → Prop where
  | var (name : String) (ty : Ty) : Settled (.var name ty)
  | lit (text : String) (ty : Ty) : Settled (.lit text ty)
  | null : Settled .null
  | assign {name : String} {ty : Ty} {rhs : Expr} : Settled rhs → Settled (.assign name ty rhs)
  | call {receiver : Expr} {method : String} {args : List Expr} :
      Settled receiver → (∀ name ty rhs, receiver ≠ .assign name ty rhs) →
      (∀ a ∈ args, Settled a) → Settled (.call receiver method args)
  | new {ty : Ty} {args : List Expr} : (∀ a ∈ args, Settled a) → Settled (.new ty args)

theorem Settled.callInside {e : Expr} (h : Settled e) (method : String) {args : List Expr}
    (hargs : ∀ a ∈ args, Settled a) : Settled (Expr.callInside method args e) := by
  induction h with
  | assign _ ih => exact .assign ih
  | var name ty => exact .call (.var name ty) (by simp) hargs
  | lit text ty => exact .call (.lit text ty) (by simp) hargs
  | null => exact .call .null (by simp) hargs
  | call hreceiver hne hothers _ _ => exact .call (.call hreceiver hne hothers) (by simp) hargs
  | new hothers _ => exact .call (.new hothers) (by simp) hargs

theorem settled_norm (e : Expr) : e.norm.Settled := by
  induction e using children_induction with
  | node e ih =>
      have hall : ∀ {es : List Expr}, (∀ c ∈ es, c.norm.Settled) → ∀ a ∈ normAll es, a.Settled := by
        intro es h
        rw [normAll_eq_map]
        exact List.forall_mem_map.mpr h
      cases e with
      | var name ty => exact .var name ty
      | lit text ty => exact .lit text ty
      | null => exact .null
      | assign name ty rhs => exact .assign (ih rhs (List.mem_singleton.mpr rfl))
      | call receiver method args =>
          exact (ih receiver (List.mem_cons_self ..)).callInside method
            (hall fun a ha => ih a (List.mem_cons_of_mem _ ha))
      | new ty args => exact .new (hall ih)

theorem Settled.of_fill {f : Frame} {e : Expr} (h : (f.fill e).Settled) : e.Settled := by
  cases f with
  | value =>
      cases h with
      | assign h => exact h
  | receiver =>
      cases h with
      | call h _ _ => exact h
  | argument =>
      cases h with
      | call _ _ h => exact h e (by simp)
  | newArgument =>
      cases h with
      | new h => exact h e (by simp)

theorem Settled.of_plug {place : Place} {e : Expr} (h : (place.plug e).Settled) : e.Settled := by
  induction place generalizing e with
  | nil => exact h
  | cons f place ih => exact (ih h).of_fill

theorem not_regroups_norm (e e' : Expr) : ¬ Regroups e.norm e' := by
  intro h
  have hsettled := e.settled_norm
  generalize e.norm = n at h hsettled
  obtain ⟨place, name, ty, rhs, method, args⟩ := h
  cases hsettled.of_plug with
  | call _ hne _ => exact hne name ty rhs rfl

theorem norm_eq_self_of_not_regroups {e : Expr} (h : ∀ e', ¬ Regroups e e') : e.norm = e := by
  rcases ReflTransGen.cases_head (regroups_norm e) with heq | ⟨e', hstep, -⟩
  · exact heq.symm
  · exact absurd hstep (h e')

/-! ### The order does not matter -/

theorem norm_fill_congr {e e' : Expr} (h : e.norm = e'.norm) (f : Frame) :
    (f.fill e).norm = (f.fill e').norm := by
  cases f with
  | value | receiver => simp only [Frame.fill, norm, h]
  | argument | newArgument =>
      simp only [Frame.fill, norm, normAll_eq_map, List.map_append, List.map_cons, h]

theorem norm_plug_congr (place : Place) {e e' : Expr} (h : e.norm = e'.norm) :
    (place.plug e).norm = (place.plug e').norm := by
  induction place generalizing e e' with
  | nil => exact h
  | cons f place ih => exact ih (norm_fill_congr h f)

theorem Regroups.norm_eq {e e' : Expr} (h : Regroups e e') : e'.norm = e.norm := by
  obtain ⟨place, name, ty, rhs, method, args⟩ := h
  apply norm_plug_congr
  simp only [norm, callInside]

theorem eq_norm_of_regroups {e e' : Expr} (h : ReflTransGen Regroups e e')
    (hend : ∀ e'', ¬ Regroups e' e'') : e' = e.norm := by
  have hnorm : e'.norm = e.norm := by
    clear hend
    induction h with
    | refl => rfl
    | tail _ hstep ih => rw [hstep.norm_eq, ih]
  rw [← hnorm, norm_eq_self_of_not_regroups hend]

end Expr

end JavaChecker
