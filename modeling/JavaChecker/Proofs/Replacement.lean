import JavaChecker.Proofs.Typing

/-!
# JavaChecker.Proofs.Replacement

One subexpression in place of another.

A `Place` is an expression with a hole, given from the hole outwards: the frames around it, each a
node with one child left out. Every occurrence of a node in an expression is a place filled with
that node, and the other way round (`exists_occurrence_iff`).

What is put into a place has to be accepted by itself, and the node right above the hole must not
mind (`Frame.locallyTyped_fill`). No node further up takes notice at all: the static type of a node
does not depend on its children, so all that the next frame sees of the hole is unchanged. A
receiver is looked at more closely than the other children. Its type decides which method is called,
and a subtype may have overridden the method with another signature.
-/

namespace JavaChecker

namespace Expr

variable {t : ClassTable}

/-! ### Places -/

/-- A node with one child left out. -/
inductive Frame where
  /-- An assignment without the value. -/
  | value (name : String) (ty : Ty)
  /-- A method call without the receiver. -/
  | receiver (method : String) (args : List Expr)
  /-- A method call without one of its arguments. -/
  | argument (object : Expr) (method : String) (before after : List Expr)
  /-- A constructor call without one of its arguments. -/
  | newArgument (ty : Ty) (before after : List Expr)

namespace Frame

/-- The node with the given child. -/
def fill : Frame → Expr → Expr
  | .value name ty, e => .assign name ty e
  | .receiver method args, e => .call e method args
  | .argument object method before after, e => .call object method (before ++ e :: after)
  | .newArgument ty before after, e => .new ty (before ++ e :: after)

/-- The other children. -/
def siblings : Frame → List Expr
  | .value .. => []
  | .receiver _ args => args
  | .argument object _ before after => object :: (before ++ after)
  | .newArgument _ before after => before ++ after

/-- Whether the child left out is the receiver of a call. -/
def isReceiver : Frame → Bool
  | .receiver .. => true
  | .value .. | .argument .. | .newArgument .. => false

theorem mem_children_fill {f : Frame} {e c : Expr} :
    c ∈ (f.fill e).children ↔ c = e ∨ c ∈ f.siblings := by
  cases f with
  | value | receiver => simp [fill, siblings, children]
  | argument | newArgument =>
      simp only [fill, siblings, children, List.mem_cons, List.mem_append, or_left_comm]

/-- The static type of a node does not depend on its children. -/
theorem staticType?_fill (f : Frame) (e e' : Expr) :
    (f.fill e').staticType? = (f.fill e).staticType? := by
  cases f <;> rfl

end Frame

theorem exists_fill_of_mem_children {e c : Expr} (h : c ∈ e.children) :
    ∃ f : Frame, f.fill c = e := by
  cases e with
  | var | lit | null => cases h
  | assign name ty rhs =>
      obtain rfl := List.mem_singleton.mp h
      exact ⟨.value name ty, rfl⟩
  | call receiver method args =>
      rcases List.mem_cons.mp h with rfl | h
      · exact ⟨.receiver method args, rfl⟩
      · obtain ⟨before, after, rfl⟩ := List.append_of_mem h
        exact ⟨.argument receiver method before after, rfl⟩
  | new ty args =>
      obtain ⟨before, after, rfl⟩ := List.append_of_mem h
      exact ⟨.newArgument ty before after, rfl⟩

/-- A place in an expression: the frames around it, the nearest first. -/
abbrev Place := List Frame

namespace Place

/-- The expression that has the given one at the place. -/
def plug : Place → Expr → Expr
  | [], e => e
  | f :: place, e => plug place (f.fill e)

/-- Whether the place is that of the receiver of a method call. -/
def isReceiver : Place → Bool
  | [] => false
  | f :: _ => f.isReceiver

end Place

/-- An expression has a node exactly where it is a place filled with that node. -/
theorem exists_occurrence_iff {root e : Expr} :
    (∃ o ∈ root.occurrences, o.node = e) ↔ ∃ place : Place, place.plug e = root := by
  refine ⟨?_, ?_⟩
  · rintro ⟨⟨above, n⟩, ho, rfl⟩
    -- Along the nodes above the occurrence, from the nearest one up to the root.
    induction above generalizing n with
    | nil => exact ⟨[], mem_occurrences_nil_iff.mp ho⟩
    | cons parent rest ih =>
        obtain ⟨hparent, hn⟩ := mem_occurrences_cons_iff.mp ho
        obtain ⟨f, hf⟩ := exists_fill_of_mem_children hn
        obtain ⟨place, hplace⟩ := ih parent hparent
        exact ⟨f :: place, by rw [Place.plug, hf, hplace]⟩
  · rintro ⟨place, hplace⟩
    induction place generalizing e with
    | nil => exact ⟨⟨[], e⟩, mem_occurrences_nil_iff.mpr hplace, rfl⟩
    | cons f place ih =>
        obtain ⟨⟨rest, parent⟩, hparent, rfl⟩ := ih hplace
        have he : e ∈ (f.fill e).children := Frame.mem_children_fill.mpr (.inl rfl)
        exact ⟨⟨f.fill e :: rest, e⟩, mem_occurrences_cons_iff.mpr ⟨hparent, he⟩, rfl⟩

/-! ### The node above the hole -/

/-- Whatever type is required of a child, the second expression meets the requirement if the first
does. -/
def MeetsDemandsOn (t : ClassTable) (e e' : Expr) : Prop :=
  ∀ ty, (∀ a, e.staticType? = some a → t.SubtypeOf a ty) →
    ∀ b, e'.staticType? = some b → t.SubtypeOf b ty

theorem meetsDemandsOn_of_untyped {e e' : Expr} (h : e'.staticType? = none) :
    MeetsDemandsOn t e e' := by
  intro ty _ b hb
  rw [h] at hb
  cases hb

theorem meetsDemandsOn_of_sameType {e e' : Expr} (h : e'.staticType? = e.staticType?) :
    MeetsDemandsOn t e e' := by
  intro ty hty b hb
  exact hty b (h ▸ hb)

theorem meetsDemandsOn_of_subtype (hroot : t.RootOnTop) {e e' : Expr} {a b : Ty}
    (ha : e.staticType? = some a) (hb : e'.staticType? = some b) (hsub : t.SubtypeOf b a) :
    MeetsDemandsOn t e e' := by
  intro ty hty b' hb'
  obtain rfl : b = b' := Option.some.inj (hb ▸ hb')
  exact hsub.trans hroot (hty a ha)

theorem fits_replace {e e' : Expr} {before after : List Expr} {params : List Ty}
    (h : t.Fits ((before ++ e :: after).map staticType?) params)
    (hdemands : MeetsDemandsOn t e e') :
    t.Fits ((before ++ e' :: after).map staticType?) params := by
  obtain ⟨hlen, hfits⟩ := h
  refine ⟨by simpa using hlen, ?_⟩
  intro i arg param harg hparam
  by_cases hi : i = before.length
  · subst hi
    refine hdemands param ?_ arg (by simpa using harg)
    intro a ha
    exact hfits before.length a param (by simpa using ha) hparam
  · -- At every other position the argument is the one that was there.
    refine hfits i arg param ?_ hparam
    rw [← harg, List.getElem?_map, List.getElem?_map, List.getElem?_append, List.getElem?_append]
    by_cases hlt : i < before.length
    · rw [if_pos hlt, if_pos hlt]
    · obtain ⟨k, hk⟩ : ∃ k, i - before.length = k + 1 := ⟨i - before.length - 1, by omega⟩
      rw [if_neg hlt, if_neg hlt, hk, List.getElem?_cons_succ, List.getElem?_cons_succ]

/-- The node above the hole stays locally typed when its child is replaced by one that meets all
demands on it. A receiver has to be untyped or of the same type. -/
theorem Frame.locallyTyped_fill {f : Frame} {e e' : Expr} (h : (f.fill e).LocallyTyped t)
    (hdemands : MeetsDemandsOn t e e')
    (hreceiver : f.isReceiver = true → e'.staticType? = none ∨ e'.staticType? = e.staticType?) :
    (f.fill e').LocallyTyped t := by
  cases f with
  | value name ty =>
      cases h with
      | assign hvalue => exact .assign (hdemands ty hvalue)
  | receiver method args =>
      rcases hreceiver rfl with huntyped | hsame
      · exact LocallyTyped.callUnknown huntyped
      · cases h with
        | callUnknown hty => exact .callUnknown (hsame.trans hty)
        | call hty hm hfits => exact .call (hsame.trans hty) hm hfits
  | argument object method before after =>
      cases h with
      | callUnknown hty => exact .callUnknown hty
      | call hty hm hfits => exact .call hty hm (fits_replace hfits hdemands)
  | newArgument ty before after =>
      cases h with
      | new hparams hfits => exact .new hparams (fits_replace hfits hdemands)

end Expr

/-! ### The check of a filled place -/

namespace Check

theorem violation?_visitAll_eq_none_iff {t : ClassTable} {p : Policy} {es : List Expr} :
    (visitAll t p es).violation? = none ↔ ∀ e ∈ es, (visit t p e).violation? = none := by
  induction es with
  | nil => simp [visitAll, Report.done]
  | cons e es ih =>
      rw [visitAll, Report.violation?_andThen, Option.or_eq_none_iff, ih, List.forall_mem_cons]

end Check

variable {t : ClassTable}

/-- The uniform check accepts a node that is locally typed and whose children it accepts. -/
theorem accepted_uniform_iff {e : Expr} :
    (check t .uniform e).accepted = true ↔
      e.LocallyTyped t ∧ ∀ c ∈ e.children, (check t .uniform c).accepted = true := by
  simp only [Report.accepted, Option.isNone_iff_eq_none, violation?_check]
  rw [Check.visit_eq, Report.violation?_andThen, Option.or_eq_none_iff,
    if_pos (show Policy.uniform.descends e = true from rfl), Check.violation?_visitAll_eq_none_iff]
  simp only [Check.node, Expr.violation?_eq_none_iff]

theorem accepted_uniform_fill {f : Expr.Frame} {e e' : Expr}
    (h : (check t .uniform (f.fill e)).accepted = true)
    (h' : (check t .uniform e').accepted = true) (hnode : (f.fill e').LocallyTyped t) :
    (check t .uniform (f.fill e')).accepted = true := by
  obtain ⟨-, hchildren⟩ := accepted_uniform_iff.mp h
  refine accepted_uniform_iff.mpr ⟨hnode, ?_⟩
  intro c hc
  rcases Expr.Frame.mem_children_fill.mp hc with rfl | hc
  · exact h'
  · exact hchildren c (Expr.Frame.mem_children_fill.mpr (.inr hc))

theorem accepted_uniform_of_plug (place : Expr.Place) {e : Expr}
    (h : (check t .uniform (place.plug e)).accepted = true) :
    (check t .uniform e).accepted = true := by
  induction place generalizing e with
  | nil => exact h
  | cons f place ih =>
      obtain ⟨-, hchildren⟩ := accepted_uniform_iff.mp (ih h)
      exact hchildren e (Expr.Frame.mem_children_fill.mpr (.inl rfl))

/-- An expression of the same static type can take the place of another anywhere. -/
theorem accepted_uniform_plug_of_sameType (place : Expr.Place) {e e' : Expr}
    (h : (check t .uniform (place.plug e)).accepted = true)
    (h' : (check t .uniform e').accepted = true) (hsame : e'.staticType? = e.staticType?) :
    (check t .uniform (place.plug e')).accepted = true := by
  induction place generalizing e e' with
  | nil => exact h'
  | cons f place ih =>
      have hfill := accepted_uniform_of_plug place h
      have hnode := Expr.Frame.locallyTyped_fill (accepted_uniform_iff.mp hfill).1
        (Expr.meetsDemandsOn_of_sameType hsame) fun _ => .inr hsame
      exact ih h (accepted_uniform_fill hfill h' hnode) (f.staticType?_fill e e')

/-- A subexpression of an expression that the uniform check accepts may be replaced by any accepted
expression that has no static type, or the same static type, or, unless it is the receiver of a
call, a subtype of it. The last of these is for tables whose root class declares no supertype but
itself; only there do subtypes of subtypes have to be subtypes. -/
theorem check_uniform_accepts_replacement (t : ClassTable) :
    (∀ root e : Expr,
      (∃ o ∈ root.occurrences, o.node = e) ↔ ∃ place : Expr.Place, place.plug e = root) ∧
    ∀ (place : Expr.Place) (e e' : Expr),
      (check t .uniform (place.plug e)).accepted = true →
      (check t .uniform e').accepted = true →
      (e'.staticType? = none ∨ e'.staticType? = e.staticType? ∨
        ∃ a b, e.staticType? = some a ∧ e'.staticType? = some b ∧ place.isReceiver = false ∧
          t.isSubtype b a = true ∧ t.RootOnTop) →
      (check t .uniform (place.plug e')).accepted = true := by
  refine ⟨fun root e => Expr.exists_occurrence_iff, ?_⟩
  intro place e e' h h' hcase
  cases place with
  | nil => exact h'
  | cons f place =>
      have hfill := accepted_uniform_of_plug place h
      have hlocal := (accepted_uniform_iff.mp hfill).1
      have hnode : (f.fill e').LocallyTyped t := by
        rcases hcase with huntyped | hsame | ⟨a, b, ha, hb, hplace, hsub, hroot⟩
        · exact Expr.Frame.locallyTyped_fill hlocal (Expr.meetsDemandsOn_of_untyped huntyped)
            fun _ => .inl huntyped
        · exact Expr.Frame.locallyTyped_fill hlocal (Expr.meetsDemandsOn_of_sameType hsame)
            fun _ => .inr hsame
        · refine Expr.Frame.locallyTyped_fill hlocal (Expr.meetsDemandsOn_of_subtype hroot ha hb
            (ClassTable.isSubtype_iff.mp hsub)) fun hreceiver => ?_
          rw [Expr.Place.isReceiver, hreceiver] at hplace
          cases hplace
      -- From the filled node on upwards nothing but an equal static type is seen.
      exact accepted_uniform_plug_of_sameType place h
        (accepted_uniform_fill hfill h' hnode) (f.staticType?_fill e e')

namespace ClassTable

/-- The initial table with a class that is made from any object. -/
def withBox : ClassTable :=
  initial.apply (.add { name := "Box", kind := .concrete,
                        constructor? := some { params := [.ofClass ⟨0⟩] } })

theorem withBox_rootOnTop : withBox.RootOnTop := by
  intro sup hsup
  obtain ⟨c, hc, hmem⟩ := hsup
  obtain rfl : objectClass = c := Option.some.inj hc
  cases hmem

/-- The content of a box in a box. -/
def boxedPlace : Expr.Place :=
  [.newArgument (.ofClass ⟨2⟩) [] [], .newArgument (.ofClass ⟨2⟩) [] []]

/-- The call of a method without parameters on text. -/
def lengthCall : Expr := .call (.var "s" (.ofClass ⟨1⟩)) "length" []

theorem withBox_accepts_lengthCall : (check withBox .uniform lengthCall).accepted = true := by
  have hlength : withBox.Resolves (.ofClass ⟨1⟩) "length"
      { name := "length", params := [], returnType := .primitive .int } := by
    have hlevel : withBox.level [⟨1⟩] 0 = [] ++ ⟨1⟩ :: [] := rfl
    refine .nearest ?_ hlevel ?_ rfl
    · intro j hj
      exact absurd hj (Nat.not_lt_zero j)
    · intro x hx
      cases hx
  refine accepted_uniform_iff.mpr ⟨.call rfl hlength ⟨rfl, by simp⟩, ?_⟩
  intro c hc
  obtain rfl := List.mem_singleton.mp hc
  decide

/-- An object in two boxes gives way to a call without a static type, to another object, and to
text. -/
theorem withBox_accepts_other_contents :
    (check withBox .uniform (boxedPlace.plug (.var "o" (.ofClass ⟨0⟩)))).accepted = true ∧
    (check withBox .uniform (boxedPlace.plug lengthCall)).accepted = true ∧
    (check withBox .uniform (boxedPlace.plug (.new (.ofClass ⟨0⟩) []))).accepted = true ∧
    (check withBox .uniform (boxedPlace.plug (.lit "\"s\"" (.ofClass ⟨1⟩)))).accepted = true := by
  have hobject : (check withBox .uniform (boxedPlace.plug (.var "o" (.ofClass ⟨0⟩)))).accepted =
      true := by decide
  obtain ⟨-, hreplace⟩ := check_uniform_accepts_replacement withBox
  refine ⟨hobject, ?_, ?_, ?_⟩
  · exact hreplace boxedPlace _ _ hobject withBox_accepts_lengthCall (.inl rfl)
  · exact hreplace boxedPlace _ _ hobject (by decide) (.inr (.inl rfl))
  · exact hreplace boxedPlace _ _ hobject (by decide)
      (.inr (.inr ⟨_, _, rfl, rfl, rfl, by decide, withBox_rootOnTop⟩))

end ClassTable

end JavaChecker
