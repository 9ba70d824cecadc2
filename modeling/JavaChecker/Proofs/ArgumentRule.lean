import JavaChecker.Proofs.RenderedTypes

/-!
# JavaChecker.Proofs.ArgumentRule

One rule for the arguments of both kinds of calls. The checker compares arguments with parameters
in two places and in two ways: for a method it asks whether all of them fit, for a constructor it
goes through them and stops at the first that does not.

`Judges` is the rule behind both. It gives one verdict on any arguments and parameters
(`exists_judges`), and the error of a call is a wording of the verdict: `newError?` for
constructors, which names the leftmost misfit, and `callError?` for methods, which shows both lists
in full. So two calls with the same parameters and arguments can only differ in the wording.
-/

namespace JavaChecker

/-- How arguments do against parameters. -/
inductive ArgumentVerdict where
  | fit
  | wrongNumber
  /-- The leftmost argument that does not fit, with its position and its parameter. -/
  | misfit (i : Nat) (arg param : Ty)

namespace ClassTable

variable {t : ClassTable}

/-- The verdict on arguments. Their types count only if the number is right. -/
inductive Judges (t : ClassTable) (args : List (Option Ty)) (params : List Ty) :
    ArgumentVerdict → Prop where
  | fit : t.Fits args params → Judges t args params .fit
  | wrongNumber : params.length ≠ args.length → Judges t args params .wrongNumber
  | misfit {i : Nat} {arg param : Ty} :
      params.length = args.length → t.Misfit args params i arg param →
      (∀ j < i, ∀ a q, ¬ t.Misfit args params j a q) → Judges t args params (.misfit i arg param)

/-- There is a verdict on all arguments. -/
theorem exists_judges (t : ClassTable) (args : List (Option Ty)) (params : List Ty) :
    ∃ v, t.Judges args params v := by
  by_cases hnumber : params.length = args.length
  · by_cases hmis : ∃ i arg param, t.Misfit args params i arg param
    · obtain ⟨i, arg, param, hmis, hleft⟩ := exists_leftmost_misfit hmis
      exact ⟨_, .misfit hnumber hmis hleft⟩
    · refine ⟨_, .fit (fits_iff.mpr ⟨hnumber, ?_⟩)⟩
      simpa using hmis
  · exact ⟨_, .wrongNumber hnumber⟩

/-! ### The two wordings -/

/-- The error of a constructor call. -/
def newError? (t : ClassTable) (ty : Ty) (args : List (Option Ty)) (params : List Ty) :
    ArgumentVerdict → Option TypeError
  | .fit => none
  | .wrongNumber =>
    some (.argumentCount (.constructor (t.render ty)) params.length args.length)
  | .misfit _ arg param => some (.constructorArgument (t.render ty) (t.render param) (t.render arg))

/-- The error of a method call. -/
def callError? (t : ClassTable) (receiver : Ty) (method : String) (args : List (Option Ty))
    (params : List Ty) : ArgumentVerdict → Option TypeError
  | .fit => none
  | .wrongNumber =>
    some (.argumentCount (.method (t.render receiver) method) params.length args.length)
  | .misfit .. => some (.methodArguments (t.render receiver) method
      (t.renderTuple (params.map some)) (t.renderTuple args))

theorem Judges.violation?_new {ty : Ty} {args : List Expr} {params : List Ty} {v : ArgumentVerdict}
    (h : t.Judges (args.map Expr.staticType?) params v) (hctor : t.Constructs ty params) :
    (Expr.new ty args).violation? t = t.newError? ty (args.map Expr.staticType?) params v := by
  cases h with
  | fit hfits => exact Expr.violation?_eq_none_iff.mpr (.new hctor hfits)
  | wrongNumber hnumber =>
      rw [List.length_map] at hnumber
      rw [newError?, List.length_map]
      exact (Expr.Breaks.newCount hctor hnumber).violation?_eq_some
  | misfit hnumber hmis hleft =>
      rw [List.length_map] at hnumber
      exact (Expr.Breaks.newArgument hctor hnumber hmis hleft).violation?_eq_some

theorem Judges.violation?_call {receiver : Expr} {ty : Ty} {method : String} {m : MethodDef}
    {args : List Expr} {v : ArgumentVerdict}
    (h : t.Judges (args.map Expr.staticType?) m.params v) (hty : receiver.staticType? = some ty)
    (hm : t.Resolves ty method m) :
    (Expr.call receiver method args).violation? t =
      t.callError? ty method (args.map Expr.staticType?) m.params v := by
  cases h with
  | fit hfits => exact Expr.violation?_eq_none_iff.mpr (.call hty hm hfits)
  | wrongNumber hnumber =>
      rw [List.length_map] at hnumber
      rw [callError?, List.length_map]
      exact (Expr.Breaks.callCount hty hm hnumber).violation?_eq_some
  | misfit hnumber hmis _ =>
      rw [List.length_map] at hnumber
      exact (Expr.Breaks.callArguments hty hm hnumber hmis).violation?_eq_some

/-! ### Both calls -/

theorem renderTuple_eq_entries (types : List (Option Ty)) :
    t.renderTuple types = "(" ++ ", ".intercalate (types.map t.entry) ++ ")" := rfl

/-- **Both kinds of calls judge their arguments alike.** A constructor call and a method call with
the same parameters and arguments are accepted together, complain together of the number of
arguments and with the same numbers, and complain together of a type. The constructor's complaint
is then about the leftmost argument that does not fit, and what it shows stands at that position of
the two lists that the method's complaint shows. -/
theorem calls_judge_arguments_alike {ty receiverTy : Ty} {receiver : Expr} {method : String}
    {m : MethodDef} {params : List Ty} (hctor : t.Constructs ty params)
    (hty : receiver.staticType? = some receiverTy) (hm : t.method? receiverTy method = some m)
    (hparams : m.params = params) (args : List Expr) :
    let ofNew := (Check.node t (.new ty args)).violation?
    let ofCall := (Check.node t (.call receiver method args)).violation?
    (ofNew = none ↔ ofCall = none) ∧
    (∀ expected actual, (∃ callee, ofNew = some (.argumentCount callee expected actual)) ↔
      ∃ callee, ofCall = some (.argumentCount callee expected actual)) ∧
    (ofNew.map TypeError.kind = some .typeMismatch ↔
      ofCall.map TypeError.kind = some .typeMismatch) ∧
    (ofNew.map TypeError.kind = some .typeMismatch →
      ∃ i arg param,
        t.Misfit (args.map Expr.staticType?) params i arg param ∧
        (∀ j < i, ∀ a q, ¬ t.Misfit (args.map Expr.staticType?) params j a q) ∧
        ofNew = some (.constructorArgument (t.render ty) (t.render param) (t.render arg)) ∧
        ofCall = some (.methodArguments (t.render receiverTy) method
          ("(" ++ ", ".intercalate (params.map t.render) ++ ")")
          ("(" ++ ", ".intercalate (args.map fun e => t.entry e.staticType?) ++ ")")) ∧
        (params.map t.render)[i]? = some (t.render param) ∧
        (args.map fun e => t.entry e.staticType?)[i]? = some (t.render arg)) := by
  subst hparams
  obtain ⟨v, hv⟩ := t.exists_judges (args.map Expr.staticType?) m.params
  have hnew : (Check.node t (.new ty args)).violation? = _ := hv.violation?_new hctor
  have hcall : (Check.node t (.call receiver method args)).violation? = _ :=
    hv.violation?_call hty (method?_eq_some_iff.mp hm)
  intro ofNew ofCall
  rw [show ofNew = _ from hnew, show ofCall = _ from hcall]
  cases hv with
  | fit => simp [newError?, callError?]
  | wrongNumber => simp [newError?, callError?, TypeError.kind]
  | @misfit i arg param _ hmis hleft =>
      refine ⟨by simp [newError?, callError?], by simp [newError?, callError?],
        by simp [newError?, callError?, TypeError.kind], ?_⟩
      intro _
      -- Both lists are shown entry by entry, so the misfit is shown at its own position.
      refine ⟨i, arg, param, hmis, hleft, rfl, ?_, ?_, ?_⟩
      · rw [callError?, renderTuple_eq_entries, renderTuple_eq_entries, List.map_map, List.map_map]
        rfl
      · rw [List.getElem?_map, hmis.2.1, Option.map_some]
      · have harg := hmis.1
        rw [List.getElem?_map, Option.map_eq_some_iff] at harg
        obtain ⟨e, he, htype⟩ := harg
        rw [List.getElem?_map, he, Option.map_some, htype]
        rfl

/-- A class that is made of a number, a text and a number, and that can be set to others. -/
def tripleClass : ClassDef where
  name := "Triple"
  kind := .concrete
  constructor? := some { params := [.primitive .int, .ofClass ⟨1⟩, .primitive .int] }
  methods := [{ name := "set", params := [.primitive .int, .ofClass ⟨1⟩, .primitive .int],
                returnType := .void }]

def withTriple : ClassTable := initial.apply (.add tripleClass)

/-- A call, whose type is not known, and two times `null`, which fits the text and not the second
number. -/
def tripleArgs : List Expr := [.call (.lit "\"s\"" (.ofClass ⟨1⟩)) "length" [], .null, .null]

theorem withTriple_method? :
    withTriple.method? (.ofClass ⟨2⟩) "set" = some
      { name := "set", params := [.primitive .int, .ofClass ⟨1⟩, .primitive .int],
        returnType := .void } := by
  have hlevel : withTriple.level [⟨2⟩] 0 = [] ++ ⟨2⟩ :: [] := rfl
  refine method?_eq_some_iff.mpr (.nearest ?_ hlevel ?_ rfl)
  · intro j hj
    exact absurd hj (Nat.not_lt_zero j)
  · intro x hx
    cases hx

/-- Making the triple and setting it fail alike: at the last argument, whatever the first is. -/
theorem triple_made_and_set_alike :
    withTriple.Constructs (.ofClass ⟨2⟩) [.primitive .int, .ofClass ⟨1⟩, .primitive .int] ∧
    (Check.node withTriple (.new (.ofClass ⟨2⟩) tripleArgs)).violation?
      = some (.constructorArgument "Triple" "int" "null") ∧
    (Check.node withTriple (.call (.var "x" (.ofClass ⟨2⟩)) "set" tripleArgs)).violation?
      = some (.methodArguments "Triple" "set" "(int, String, int)" "(?, null, null)") := by
  have hctor : withTriple.Constructs (.ofClass ⟨2⟩)
      [.primitive .int, .ofClass ⟨1⟩, .primitive .int] :=
    .declared (c := tripleClass) (k := { params := _ }) rfl rfl rfl
  have hnew : (Check.node withTriple (.new (.ofClass ⟨2⟩) tripleArgs)).violation?
      = some (.constructorArgument "Triple" "int" "null") := by decide
  have hreceiver : (Expr.var "x" (.ofClass ⟨2⟩)).staticType? = some (.ofClass ⟨2⟩) := rfl
  obtain ⟨-, -, -, hmismatch⟩ := calls_judge_arguments_alike hctor hreceiver withTriple_method? rfl
    tripleArgs
  obtain ⟨-, -, -, -, -, -, hcall, -⟩ := hmismatch (congrArg (Option.map TypeError.kind) hnew)
  exact ⟨hctor, hnew, hcall⟩

end ClassTable

end JavaChecker
