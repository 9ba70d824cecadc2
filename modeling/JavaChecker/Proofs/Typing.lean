import JavaChecker.Proofs.Arguments
import JavaChecker.Proofs.Lookup
import JavaChecker.Proofs.Visit

/-!
# JavaChecker.Proofs.Typing

The typing rules as a judgement, and the checker against it.

`Expr.LocallyTyped` says when a single node is in order, given the static types of its children,
and `Expr.Breaks` says which error a node deserves that is not. Both speak of the relations of the
other modules only (`SubtypeOf`, `Resolves`, `Constructs`, `Misfit`), so they mention no search and
no order of tests beyond the one in which the rules of a call count: the callee, the number of
arguments, their types.

A node without a violation is a locally typed one (`violation?_eq_none_iff`), and the violation of
any other is the error of the first rule it breaks (`violation?_eq_some_iff`). With the list of
visited nodes this gives the two main results: what a check accepts, and what it reports.
-/

namespace JavaChecker

namespace Expr

variable {t : ClassTable}

/-! ### The judgement for one node -/

/-- The node obeys its typing rule. A child without a static type satisfies every requirement. -/
inductive LocallyTyped (t : ClassTable) : Expr → Prop where
  | var (name : String) (ty : Ty) : LocallyTyped t (.var name ty)
  | lit (text : String) (ty : Ty) : LocallyTyped t (.lit text ty)
  | null : LocallyTyped t .null
  /-- The type of the value is a subtype of the variable's. -/
  | assign {name : String} {ty : Ty} {rhs : Expr} :
      (∀ value, rhs.staticType? = some value → t.SubtypeOf value ty) →
      LocallyTyped t (.assign name ty rhs)
  /-- Nothing is required of a call on a receiver whose type is not known. -/
  | callUnknown {receiver : Expr} {method : String} {args : List Expr} :
      receiver.staticType? = none → LocallyTyped t (.call receiver method args)
  /-- The receiver has the method, and the arguments fit its parameters. -/
  | call {receiver : Expr} {method : String} {args : List Expr} {ty : Ty} {m : MethodDef} :
      receiver.staticType? = some ty → t.Resolves ty method m →
      t.Fits (args.map staticType?) m.params → LocallyTyped t (.call receiver method args)
  /-- The type can be instantiated, and the arguments fit the parameters of its constructor. -/
  | new {ty : Ty} {args : List Expr} {params : List Ty} :
      t.Constructs ty params → t.Fits (args.map staticType?) params → LocallyTyped t (.new ty args)

/-- The error of the first rule that the node breaks. -/
inductive Breaks (t : ClassTable) : Expr → TypeError → Prop where
  | assign {name : String} {ty : Ty} {rhs : Expr} {value : Ty} :
      rhs.staticType? = some value → ¬ t.SubtypeOf value ty →
      Breaks t (.assign name ty rhs) (.assignment (t.render value) name (t.render ty))
  | noSuchMethod {receiver : Expr} {method : String} {args : List Expr} {ty : Ty} :
      receiver.staticType? = some ty → (∀ m, ¬ t.Resolves ty method m) →
      Breaks t (.call receiver method args) (.noSuchMethod (t.render ty) method)
  | callCount {receiver : Expr} {method : String} {args : List Expr} {ty : Ty} {m : MethodDef} :
      receiver.staticType? = some ty → t.Resolves ty method m →
      m.params.length ≠ args.length →
      Breaks t (.call receiver method args)
        (.argumentCount (.method (t.render ty) method) m.params.length args.length)
  /-- Some argument does not fit; the error shows all parameters and all arguments. -/
  | callArguments {receiver : Expr} {method : String} {args : List Expr} {ty : Ty}
      {m : MethodDef} {i : Nat} {arg param : Ty} :
      receiver.staticType? = some ty → t.Resolves ty method m →
      m.params.length = args.length → t.Misfit (args.map staticType?) m.params i arg param →
      Breaks t (.call receiver method args)
        (.methodArguments (t.render ty) method (t.renderTuple (m.params.map some))
          (t.renderTuple (args.map staticType?)))
  | notInstantiable {ty : Ty} {args : List Expr} :
      ¬ t.Instantiable ty → Breaks t (.new ty args) (.illegalInstantiation (t.render ty))
  | newCount {ty : Ty} {args : List Expr} {params : List Ty} :
      t.Constructs ty params → params.length ≠ args.length →
      Breaks t (.new ty args)
        (.argumentCount (.constructor (t.render ty)) params.length args.length)
  /-- Some argument does not fit; the error shows the leftmost one and its parameter. -/
  | newArgument {ty : Ty} {args : List Expr} {params : List Ty} {i : Nat} {arg param : Ty} :
      t.Constructs ty params → params.length = args.length →
      t.Misfit (args.map staticType?) params i arg param →
      (∀ j < i, ∀ a q, ¬ t.Misfit (args.map staticType?) params j a q) →
      Breaks t (.new ty args)
        (.constructorArgument (t.render ty) (t.render param) (t.render arg))

/-! ### The rules leave no gap

Every node is locally typed or breaks some rule. This is a fact about the rules alone; together
with the two lemmas after it, it settles what `violation?` gives. -/

theorem locallyTyped_or_breaks (t : ClassTable) (e : Expr) :
    LocallyTyped t e ∨ ∃ err, Breaks t e err := by
  cases e with
  | var name ty => exact .inl (.var name ty)
  | lit text ty => exact .inl (.lit text ty)
  | null => exact .inl .null
  | assign name ty rhs =>
      by_cases h : ∀ value, rhs.staticType? = some value → t.SubtypeOf value ty
      · exact .inl (.assign h)
      · obtain ⟨value, hvalue, hsub⟩ : ∃ value, rhs.staticType? = some value ∧
            ¬ t.SubtypeOf value ty := by simpa using h
        exact .inr ⟨_, .assign hvalue hsub⟩
  | call receiver method args =>
      cases hty : receiver.staticType? with
      | none => exact .inl (.callUnknown hty)
      | some ty =>
          -- The rules of a call in the order in which they count.
          by_cases hm : ∃ m, t.Resolves ty method m
          · obtain ⟨m, hm⟩ := hm
            by_cases hlen : m.params.length = args.length
            · by_cases hmis : ∃ i arg param, t.Misfit (args.map staticType?) m.params i arg param
              · obtain ⟨i, arg, param, hmis⟩ := hmis
                exact .inr ⟨_, .callArguments hty hm hlen hmis⟩
              · refine .inl (.call hty hm (ClassTable.fits_iff.mpr ⟨by simpa using hlen, ?_⟩))
                simpa using hmis
            · exact .inr ⟨_, .callCount hty hm hlen⟩
          · exact .inr ⟨_, .noSuchMethod hty (not_exists.mp hm)⟩
  | new ty args =>
      by_cases hinst : t.Instantiable ty
      · obtain ⟨params, hparams⟩ := hinst.exists_constructs
        by_cases hlen : params.length = args.length
        · by_cases hmis : ∃ i arg param, t.Misfit (args.map staticType?) params i arg param
          · -- Unlike a method call, a constructor call reports one position: the leftmost.
            obtain ⟨i, arg, param, hmis, hleft⟩ := ClassTable.exists_leftmost_misfit hmis
            exact .inr ⟨_, .newArgument hparams hlen hmis hleft⟩
          · refine .inl (.new hparams (ClassTable.fits_iff.mpr ⟨by simpa using hlen, ?_⟩))
            simpa using hmis
        · exact .inr ⟨_, .newCount hparams hlen⟩
      · exact .inr ⟨_, .notInstantiable hinst⟩

/-! ### The rules as code -/

theorem LocallyTyped.violation?_eq_none {e : Expr} (h : LocallyTyped t e) :
    e.violation? t = none := by
  cases h with
  | var | lit | null => rfl
  | @assign name ty rhs h =>
      rw [violation?]
      cases hvalue : rhs.staticType? with
      | none => rfl
      | some value => rw [assignViolation?, if_pos (ClassTable.isSubtype_iff.mpr (h value hvalue))]
  | callUnknown hty => rw [violation?, hty]
  | call hty hm hfits =>
      obtain ⟨hlen, hmis⟩ := ClassTable.fits_iff.mp hfits
      rw [violation?, hty]
      dsimp only
      rw [callViolation?, ClassTable.method?_eq_some_iff.mpr hm]
      dsimp only
      rw [if_neg (not_not.mpr hlen), if_pos (ClassTable.accepts_iff.mpr hmis)]
  | new hparams hfits =>
      obtain ⟨hinst, hctor⟩ := ClassTable.constructs_iff.mp hparams
      obtain ⟨hlen, hmis⟩ := ClassTable.fits_iff.mp hfits
      rw [violation?, newViolation?, ClassTable.isInstantiable_iff.mpr hinst, hctor]
      dsimp only
      rw [if_neg (by decide), if_neg (not_not.mpr hlen),
        ClassTable.firstMisfit?_eq_none_iff.mpr hmis, Option.map_none]

theorem Breaks.violation?_eq_some {e : Expr} {err : TypeError} (h : Breaks t e err) :
    e.violation? t = some err := by
  cases h with
  | assign hvalue hsub =>
      rw [violation?, hvalue, assignViolation?,
        if_neg fun h => hsub (ClassTable.isSubtype_iff.mp h)]
  | noSuchMethod hty hm =>
      rw [violation?, hty]
      dsimp only
      rw [callViolation?, ClassTable.method?_eq_none_iff.mpr hm]
  | callCount hty hm hlen =>
      rw [violation?, hty]
      dsimp only
      rw [callViolation?, ClassTable.method?_eq_some_iff.mpr hm]
      dsimp only
      rw [List.length_map, if_pos hlen]
  | @callArguments _ _ _ _ _ i arg param hty hm hlen hmis =>
      rw [violation?, hty]
      dsimp only
      rw [callViolation?, ClassTable.method?_eq_some_iff.mpr hm]
      dsimp only
      rw [List.length_map, if_neg (not_not.mpr hlen),
        if_neg fun h => ClassTable.accepts_iff.mp h i arg param hmis]
  | notInstantiable hinst =>
      have hfalse : t.isInstantiable _ = false :=
        Bool.eq_false_iff.mpr fun h => hinst (ClassTable.isInstantiable_iff.mp h)
      rw [violation?, newViolation?, hfalse, if_pos (by decide)]
  | newCount hparams hlen =>
      obtain ⟨hinst, hctor⟩ := ClassTable.constructs_iff.mp hparams
      rw [violation?, newViolation?, ClassTable.isInstantiable_iff.mpr hinst, hctor]
      dsimp only
      rw [if_neg (by decide), List.length_map, if_pos hlen]
  | newArgument hparams hlen hmis hleft =>
      obtain ⟨hinst, hctor⟩ := ClassTable.constructs_iff.mp hparams
      rw [violation?, newViolation?, ClassTable.isInstantiable_iff.mpr hinst, hctor]
      dsimp only
      rw [if_neg (by decide), List.length_map, if_neg (not_not.mpr hlen),
        ClassTable.firstMisfit?_eq_some_iff.mpr ⟨_, hmis, hleft⟩, Option.map_some]

/-- A node has no violation exactly when it is locally typed. -/
theorem violation?_eq_none_iff {e : Expr} : e.violation? t = none ↔ e.LocallyTyped t := by
  refine ⟨?_, LocallyTyped.violation?_eq_none⟩
  intro h
  rcases locallyTyped_or_breaks t e with hok | ⟨err, hbreaks⟩
  · exact hok
  · rw [hbreaks.violation?_eq_some] at h
    cases h

/-- The violation of a node is the error of the first rule it breaks. -/
theorem violation?_eq_some_iff {e : Expr} {err : TypeError} :
    e.violation? t = some err ↔ e.Breaks t err := by
  refine ⟨?_, Breaks.violation?_eq_some⟩
  intro h
  rcases locallyTyped_or_breaks t e with hok | ⟨err', hbreaks⟩
  · rw [hok.violation?_eq_none] at h
    cases h
  · rw [hbreaks.violation?_eq_some] at h
    cases h
    exact hbreaks

theorem Breaks.not_locallyTyped {e : Expr} {err : TypeError} (h : e.Breaks t err) :
    ¬ e.LocallyTyped t := by
  rw [← violation?_eq_none_iff, h.violation?_eq_some]
  exact Option.some_ne_none err

end Expr

/-! ### What a check accepts -/

theorem accepted_check_iff {t : ClassTable} {p : Policy} {e : Expr} :
    (check t p e).accepted = true ↔ ∀ o ∈ e.visited p, o.node.LocallyTyped t := by
  rw [Report.accepted, Option.isNone_iff_eq_none, violation?_check_eq,
    List.findSome?_eq_none_iff]
  simp only [Expr.violation?_eq_none_iff]

/-- Under the uniform policy a check accepts exactly the expressions all of whose nodes are locally
typed; under the other policy, those whose nodes are locally typed as far as nothing but
constructor calls stands above them. -/
theorem check_accepts_iff_nodes_locallyTyped (t : ClassTable) (e : Expr) :
    ((check t .uniform e).accepted = true ↔ ∀ o ∈ e.occurrences, o.node.LocallyTyped t) ∧
    ((check t .constructorArgsOnly e).accepted = true ↔
      ∀ o ∈ e.occurrences, (∀ a ∈ o.above, a.isNew = true) → o.node.LocallyTyped t) := by
  refine ⟨?_, ?_⟩
  · rw [accepted_check_iff]
    simp [Expr.visited, Policy.reaches]
  · rw [accepted_check_iff]
    simp [Expr.visited, Policy.reaches]

/-! ### What a check reports -/

end JavaChecker
