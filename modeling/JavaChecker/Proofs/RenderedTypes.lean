import JavaChecker.Proofs.Typing
import JavaChecker.Proofs.Updates

/-!
# JavaChecker.Proofs.RenderedTypes

Types told apart by their texts. A type is shown by a keyword, by the name of its class, or, if no
class is defined for it, by its number. As long as no class has a name that could be taken for one
of the other texts (`Unmistakable`), different types have different texts: names of classes are
distinct in every table that operations build, and so are numbers.

A list of types is shown with commas in between. Lists of one length can be told apart if no entry
has a comma (`intercalate_injective`), and in a mismatch the two lists are of one length: the number
of arguments is looked at first. So whatever the checker reports as a mismatch shows two different
texts.
-/

namespace JavaChecker

namespace Text

/-- What stands before the first character of another sort is determined by the text. -/
theorem append_inj_of_stops {p : Char → Prop} {v w r s : List Char} (hv : ∀ c ∈ v, p c)
    (hw : ∀ c ∈ w, p c) (hr : ∀ c ∈ r.head?, ¬ p c) (hs : ∀ c ∈ s.head?, ¬ p c)
    (h : v ++ r = w ++ s) : v = w ∧ r = s := by
  induction v generalizing w with
  | nil =>
      cases w with
      | nil => exact ⟨rfl, h⟩
      | cons c w =>
          rw [List.nil_append] at h
          exact absurd (hw c (List.mem_cons_self ..)) (hr c (by rw [h]; rfl))
  | cons c v ih =>
      rw [List.forall_mem_cons] at hv
      cases w with
      | nil =>
          rw [List.nil_append] at h
          exact absurd hv.1 (hs c (by rw [← h]; rfl))
      | cons d w =>
          rw [List.forall_mem_cons] at hw
          obtain ⟨rfl, htail⟩ := List.cons.inj h
          obtain ⟨rfl, hrest⟩ := ih hv.2 hw.2 htail
          exact ⟨rfl, hrest⟩

/-- Entries without a comma can be read off the list that shows them. -/
theorem intercalate_injective {xs ys : List String} (hlength : xs.length = ys.length)
    (hx : ∀ x ∈ xs, ',' ∉ x.toList) (hy : ∀ y ∈ ys, ',' ∉ y.toList)
    (h : ", ".intercalate xs = ", ".intercalate ys) : xs = ys := by
  have hnocomma : ∀ {x : String}, ',' ∉ x.toList → ∀ c ∈ x.toList, c ≠ ',' :=
    fun h c hc heq => h (heq ▸ hc)
  induction xs generalizing ys with
  | nil => exact (List.eq_nil_of_length_eq_zero hlength.symm).symm
  | cons x xs ih =>
      obtain _ | ⟨y, ys⟩ := ys
      · cases hlength
      rw [List.forall_mem_cons] at hx hy
      rw [List.length_cons, List.length_cons, Nat.succ_inj] at hlength
      obtain _ | ⟨x', xs⟩ := xs
      · obtain rfl := List.eq_nil_of_length_eq_zero hlength.symm
        simpa using h
      · obtain _ | ⟨y', ys⟩ := ys
        · cases hlength
        have hlist := congrArg String.toList h
        simp only [String.intercalate_cons_cons, String.toList_append, List.append_assoc] at hlist
        obtain ⟨hhead, hrest⟩ := append_inj_of_stops (p := (· ≠ ',')) (hnocomma hx.1)
          (hnocomma hy.1) (by simp) (by simp) hlist
        rw [List.append_right_inj, String.toList_inj] at hrest
        rw [String.toList_inj.mp hhead, ih hlength hx.2 hy.2 hrest]

end Text

namespace ClassTable

variable {t : ClassTable}

/-! ### Names -/

/-- The name has no comma and is not the text of a type other than a defined class. -/
structure Unmistakable (name : String) : Prop where
  comma_not_mem : ',' ∉ name.toList
  ne_void : name ≠ "void"
  ne_null : name ≠ "null"
  ne_keyword : ∀ p : Primitive, name ≠ p.keyword
  ne_unknown : ∀ n : Nat, name ≠ s!"<unknown#{n}>"

/-- The name that an operation gives to a class. -/
def Op.name : Op → String
  | .intern name => name
  | .add c => c.name
  | .define _ c => c.name

/-- All classes of the table have names with the property. -/
def Named (P : String → Prop) (t : ClassTable) : Prop :=
  ∀ id c, t.class? id = some c → P c.name

theorem Update.class?_or_eq {t' : ClassTable} {written id : ClassId} {c d : ClassDef}
    (h : Update t written d t') (hc : t'.class? id = some c) : t.class? id = some c ∨ c = d := by
  rw [h.class?_eq] at hc
  split at hc
  · exact .inr (Option.some.inj hc).symm
  · exact .inl hc

/-- Every class of the table after an operation was there before, or has the operation's name. -/
theorem class?_or_name_eq_of_apply (hcons : t.Consistent) {op : Op} {id : ClassId} {c : ClassDef}
    (h : (t.apply op).class? id = some c) : t.class? id = some c ∨ c.name = op.name := by
  cases op with
  | intern name =>
      cases hintern : t.intern name with
      | none => exact .inl (by simpa [apply, hintern] using h)
      | some r =>
          simp only [apply, hintern, Option.map_some, Option.getD_some] at h
          rcases intern_cases hintern with ⟨heq, -⟩ | ⟨-, hupdate⟩
          · exact .inl (heq ▸ h)
          · exact (hupdate.class?_or_eq h).imp_right (congrArg ClassDef.name)
  | add d =>
      cases hadd : t.add d with
      | none => exact .inl (by simpa [apply, hadd] using h)
      | some r =>
          simp only [apply, hadd, Option.map_some, Option.getD_some] at h
          exact ((update_of_add hcons hadd).1.class?_or_eq h).imp_right (congrArg ClassDef.name)
  | define written d =>
      cases hdefine : t.define written d with
      | error err t' =>
          rw [apply, hdefine, eq_of_define_error hdefine] at h
          exact .inl h
      | ok _ t' =>
          simp only [apply, hdefine] at h
          exact ((update_of_define hdefine).2.class?_or_eq h).imp_right (congrArg ClassDef.name)

theorem Named.apply {P : String → Prop} (h : t.Named P) (hcons : t.Consistent) {op : Op}
    (hop : P op.name) : (t.apply op).Named P := by
  intro id c hc
  rcases class?_or_name_eq_of_apply hcons hc with hold | hname
  · exact h id c hold
  · exact hname ▸ hop

theorem Named.foldl_apply {P : String → Prop} (h : t.Named P) (hreach : t.Reachable) {ops : List Op}
    (hops : ∀ op ∈ ops, P op.name) :
    (ops.foldl ClassTable.apply t).Reachable ∧ (ops.foldl ClassTable.apply t).Named P := by
  induction ops generalizing t with
  | nil => exact ⟨hreach, h⟩
  | cons op ops ih =>
      rw [List.forall_mem_cons] at hops
      exact ih (h.apply hreach.consistent hops.1) (hreach.step op) hops.2

/-! ### Texts of single types -/

theorem unknown_eq (n : Nat) : s!"<unknown#{n}>" = "<unknown#" ++ n.repr ++ ">" := rfl

theorem unknown_injective {m n : Nat} (h : s!"<unknown#{m}>" = s!"<unknown#{n}>") : m = n := by
  rw [unknown_eq, unknown_eq, ← String.toList_inj] at h
  have hdigits : Nat.toDigits 10 m = Nat.toDigits 10 n := by
    simpa [Nat.toList_repr] using h
  rw [← Nat.ofDigitChars_toDigits (b := 10) (n := m) (by decide) (by decide), hdigits,
    Nat.ofDigitChars_toDigits (by decide) (by decide)]

theorem comma_not_mem_unknown (n : Nat) : ',' ∉ (s!"<unknown#{n}>").toList := by
  have hdigits : ',' ∉ Nat.toDigits 10 n := fun hmem =>
    absurd (Nat.isDigit_of_mem_toDigits (by decide) (by decide) hmem) (by decide)
  rw [unknown_eq]
  simp [Nat.toList_repr, hdigits]

/-- A text that does not begin like that of an undefined class is not one. -/
theorem ne_unknown_of_head? {name : String} (h : name.toList.head? ≠ some '<') (n : Nat) :
    name ≠ s!"<unknown#{n}>" := by
  rintro rfl
  rw [unknown_eq] at h
  simp at h

theorem render_ofClass_of_some {id : ClassId} {c : ClassDef} (hc : t.class? id = some c) :
    t.render (.ofClass id) = c.name := by
  rw [render, hc]

theorem render_ofClass_of_none {id : ClassId} (hc : t.class? id = none) :
    t.render (.ofClass id) = s!"<unknown#{id.raw.toNat}>" := by
  rw [render, hc]

theorem render_ofClass_ne (hnamed : t.Named Unmistakable) (id : ClassId) {ty : Ty}
    (hty : ∀ other, ty ≠ .ofClass other) : t.render (.ofClass id) ≠ t.render ty := by
  cases hc : t.class? id with
  | none =>
      rw [render_ofClass_of_none hc]
      apply Ne.symm
      cases ty with
      | void | null => exact ne_unknown_of_head? (by simp [render]) _
      | primitive p => exact ne_unknown_of_head? (by cases p <;> simp [render, Primitive.keyword]) _
      | ofClass other => exact absurd rfl (hty other)
  | some c =>
      have hname := hnamed id c hc
      rw [render_ofClass_of_some hc]
      cases ty with
      | void => exact hname.ne_void
      | null => exact hname.ne_null
      | primitive p => exact hname.ne_keyword p
      | ofClass other => exact absurd rfl (hty other)

theorem render_ofClass_injective (hcons : t.Consistent) (hnamed : t.Named Unmistakable)
    {a b : ClassId} (h : t.render (.ofClass a) = t.render (.ofClass b)) : a = b := by
  cases ha : t.class? a with
  | none =>
      rw [render_ofClass_of_none ha] at h
      cases hb : t.class? b with
      | none =>
          rw [render_ofClass_of_none hb] at h
          exact ClassId.index_injective (unknown_injective h)
      | some d =>
          rw [render_ofClass_of_some hb] at h
          exact absurd h.symm ((hnamed b d hb).ne_unknown _)
  | some c =>
      rw [render_ofClass_of_some ha] at h
      cases hb : t.class? b with
      | none =>
          rw [render_ofClass_of_none hb] at h
          exact absurd h ((hnamed a c ha).ne_unknown _)
      | some d =>
          rw [render_ofClass_of_some hb] at h
          exact hcons.name_injective ha hb h

/-- The types that are shown by a keyword. -/
def keywordTypes : List Ty := .void :: .null :: Primitive.all.map .primitive

theorem find?_render_of_not_class {ty : Ty} (hty : ∀ id, ty ≠ .ofClass id) :
    keywordTypes.find? (t.render · == t.render ty) = some ty := by
  cases ty with
  | void | null => rfl
  | primitive p => cases p <;> rfl
  | ofClass id => exact absurd rfl (hty id)

/-- **Different types have different texts**, in a table of distinct and unmistakable names. -/
theorem render_injective (hcons : t.Consistent) (hnamed : t.Named Unmistakable) :
    Function.Injective t.render := by
  intro a b h
  by_cases ha : ∃ x, a = .ofClass x
  · obtain ⟨x, rfl⟩ := ha
    by_cases hb : ∃ y, b = .ofClass y
    · obtain ⟨y, rfl⟩ := hb
      rw [render_ofClass_injective hcons hnamed h]
    · exact absurd h (render_ofClass_ne hnamed x (not_exists.mp hb))
  · by_cases hb : ∃ y, b = .ofClass y
    · obtain ⟨y, rfl⟩ := hb
      exact absurd h.symm (render_ofClass_ne hnamed y (not_exists.mp ha))
    · -- Both are keywords, and looking up a keyword gives its type back.
      have hfound := find?_render_of_not_class (t := t) (not_exists.mp ha)
      rw [h, find?_render_of_not_class (not_exists.mp hb)] at hfound
      exact (Option.some.inj hfound).symm

theorem comma_not_mem_render (hnamed : t.Named Unmistakable) (ty : Ty) :
    ',' ∉ (t.render ty).toList := by
  cases ty with
  | void | null => simp [render]
  | primitive p => cases p <;> simp [render, Primitive.keyword]
  | ofClass id =>
      cases hc : t.class? id with
      | none =>
          rw [render_ofClass_of_none hc]
          exact comma_not_mem_unknown _
      | some c =>
          rw [render_ofClass_of_some hc]
          exact (hnamed id c hc).comma_not_mem

/-! ### Texts of lists of types -/

/-- The text of a type in a list. -/
def entry (t : ClassTable) (ty? : Option Ty) : String := ty?.elim "?" t.render

theorem map_entry_eq_of_renderTuple_eq (hnamed : t.Named Unmistakable) {xs ys : List (Option Ty)}
    (hlength : xs.length = ys.length) (h : t.renderTuple xs = t.renderTuple ys) :
    xs.map t.entry = ys.map t.entry := by
  have hcomma : ∀ tys : List (Option Ty), ∀ text ∈ tys.map t.entry, ',' ∉ text.toList := by
    intro tys text htext
    obtain ⟨ty?, -, rfl⟩ := List.mem_map.mp htext
    cases ty? with
    | none => simp [entry]
    | some ty => exact comma_not_mem_render hnamed ty
  refine Text.intercalate_injective (by simpa using hlength) (hcomma xs) (hcomma ys) ?_
  rw [renderTuple, renderTuple] at h
  exact (String.append_right_inj _).mp ((String.append_left_inj _).mp h)

/-- Lists with different types at some position have different texts, whatever else they hold. -/
theorem renderTuple_ne (hcons : t.Consistent) (hnamed : t.Named Unmistakable)
    {xs ys : List (Option Ty)} (hlength : xs.length = ys.length) {i : Nat} {a b : Ty}
    (ha : xs[i]? = some (some a)) (hb : ys[i]? = some (some b)) (hne : a ≠ b) :
    t.renderTuple xs ≠ t.renderTuple ys := by
  intro h
  have hentry := congrArg (·[i]?) (map_entry_eq_of_renderTuple_eq hnamed hlength h)
  simp only [List.getElem?_map, ha, hb, Option.map_some, Option.some.injEq] at hentry
  exact hne (render_injective hcons hnamed hentry)

end ClassTable

/-! ### Mismatches -/

/-- The two texts that a mismatch sets against each other. -/
def TypeError.sides? : TypeError → Option (String × String)
  | .assignment valueType _ variableType => some (valueType, variableType)
  | .methodArguments _ _ expected actual => some (expected, actual)
  | .constructorArgument _ expected actual => some (expected, actual)
  | .argumentCount .. | .noSuchMethod .. | .illegalInstantiation .. => none

theorem ClassTable.Misfit.ne {t : ClassTable} {args : List (Option Ty)} {params : List Ty} {i : Nat}
    {arg param : Ty} (h : t.Misfit args params i arg param) : param ≠ arg := by
  rintro rfl
  exact h.2.2 (ClassTable.isSubtype_iff.mp (t.isSubtype_refl param))

/-- A node that breaks a rule by a mismatch breaks it with two different texts. -/
theorem Expr.Breaks.sides_ne {t : ClassTable} (hcons : t.Consistent)
    (hnamed : t.Named ClassTable.Unmistakable) {e : Expr} {err : TypeError} (h : e.Breaks t err)
    {x y : String} (hsides : err.sides? = some (x, y)) : x ≠ y := by
  have hinj := ClassTable.render_injective hcons hnamed
  cases h with
  | @assign _ ty _ value _ hsub =>
      cases hsides
      refine hinj.ne ?_
      rintro rfl
      exact hsub (ClassTable.isSubtype_iff.mp (t.isSubtype_refl value))
  | @callArguments _ _ args _ m i arg param _ _ hlength hmis =>
      cases hsides
      refine ClassTable.renderTuple_ne hcons hnamed (by simpa using hlength) ?_ hmis.1 hmis.ne
      simp [hmis.2.1]
  | newArgument _ _ hmis _ =>
      cases hsides
      exact hinj.ne hmis.ne
  | noSuchMethod | callCount | notInstantiable | newCount => cases hsides

theorem sides_ne_of_violation? {t : ClassTable} (hcons : t.Consistent)
    (hnamed : t.Named ClassTable.Unmistakable) {p : Policy} {e : Expr} {err : TypeError}
    (h : (check t p e).violation? = some err) {x y : String} (hsides : err.sides? = some (x, y)) :
    x ≠ y := by
  rw [violation?_check_eq] at h
  obtain ⟨o, -, hbreaks⟩ := List.exists_of_findSome?_eq_some h
  exact (Expr.violation?_eq_some_iff.mp hbreaks).sides_ne hcons hnamed hsides

namespace ClassTable

theorem unmistakable_of_head? {name : String} (hcomma : ',' ∉ name.toList)
    (hwords : name ∉ keywordTypes.map initial.render) (hhead : name.toList.head? ≠ some '<') :
    Unmistakable name where
  comma_not_mem := hcomma
  ne_void := by
    rintro rfl
    exact hwords (by decide)
  ne_null := by
    rintro rfl
    exact hwords (by decide)
  ne_keyword := by
    rintro p rfl
    exact hwords (by cases p <;> decide)
  ne_unknown := ne_unknown_of_head? hhead

theorem initial_named : initial.Named Unmistakable := by
  intro id c hc
  have hmem : c ∈ [objectClass, stringClass] := Array.mem_toList_iff.mpr (Array.mem_of_getElem? hc)
  rw [List.mem_cons, List.mem_singleton] at hmem
  rcases hmem with rfl | rfl
  · exact unmistakable_of_head? (by decide) (by decide) (by decide)
  · exact unmistakable_of_head? (by decide) (by decide) (by decide)

/-- **A reported mismatch never looks like a match**, after any operations whose names cannot be
taken for another text: all types, defined or not, have different texts, and so have the two sides
of every mismatch that a check reports, lists with types that are not known included. -/
theorem reported_mismatch_shows_two_texts (ops : List Op)
    (hops : ∀ op ∈ ops, Unmistakable op.name) :
    let t := ops.foldl apply initial
    Function.Injective t.render ∧
    ∀ (p : Policy) (e : Expr),
      (∀ valueType name variableType,
        (check t p e).violation? = some (.assignment valueType name variableType) →
        valueType ≠ variableType) ∧
      (∀ ty expected actual,
        (check t p e).violation? = some (.constructorArgument ty expected actual) →
        expected ≠ actual) ∧
      ∀ receiver method expected actual,
        (check t p e).violation? = some (.methodArguments receiver method expected actual) →
        expected ≠ actual := by
  intro t
  obtain ⟨hreach, hnamed⟩ := initial_named.foldl_apply .initial hops
  refine ⟨render_injective hreach.consistent hnamed, ?_⟩
  intro p e
  refine ⟨?_, ?_, ?_⟩
  · intro valueType name variableType h
    exact sides_ne_of_violation? hreach.consistent hnamed h rfl
  · intro ty expected actual h
    exact sides_ne_of_violation? hreach.consistent hnamed h rfl
  · intro receiver method expected actual h
    exact sides_ne_of_violation? hreach.consistent hnamed h rfl

/-- A class whose method takes a number and an object of the class is added, and then renamed to
what stands for a type that is not known. -/
def questionOps : List Op := [
  .add { name := "Answer", kind := .concrete },
  .define ⟨2⟩ { name := "?", kind := .concrete,
                methods := [{ name := "set", params := [.primitive .int, .ofClass ⟨2⟩],
                              returnType := .void }] }]

/-- The method is called with `null` for the number and with a call for the object. -/
def questionCall : Expr :=
  .call (.var "q" (.ofClass ⟨2⟩)) "set" [.null, .call (.var "q" (.ofClass ⟨2⟩)) "get" []]

theorem questionCall_breaks :
    questionCall.Breaks (questionOps.foldl apply initial)
      (.methodArguments "?" "set" "(int, ?)" "(null, ?)") := by
  have hset : (questionOps.foldl apply initial).Resolves (.ofClass ⟨2⟩) "set"
      { name := "set", params := [.primitive .int, .ofClass ⟨2⟩], returnType := .void } := by
    have hlevel : (questionOps.foldl apply initial).level [⟨2⟩] 0 = [] ++ ⟨2⟩ :: [] := rfl
    refine .nearest ?_ hlevel ?_ rfl
    · intro j hj
      exact absurd hj (Nat.not_lt_zero j)
    · intro x hx
      cases hx
  have hnumber : (questionOps.foldl apply initial).Misfit [some .null, none]
      [.primitive .int, .ofClass ⟨2⟩] 0 .null (.primitive .int) :=
    ⟨rfl, rfl, fun hsub => absurd (isSubtype_iff.mpr hsub) (by decide)⟩
  exact Expr.Breaks.callArguments rfl hset rfl hnumber

/-- In the mismatch of a call, the same question mark stands for a class and for a type that is not
known, and the two lists still differ. -/
theorem questionCall_shows_two_texts :
    (∀ op ∈ questionOps, Unmistakable op.name) ∧
    (check (questionOps.foldl apply initial) .uniform questionCall).violation? =
      some (.methodArguments "?" "set" "(int, ?)" "(null, ?)") ∧
    "(int, ?)" ≠ "(null, ?)" := by
  have hops : ∀ op ∈ questionOps, Unmistakable op.name := by
    simp only [questionOps, List.forall_mem_cons, Op.name]
    refine ⟨?_, ?_, by simp⟩
    · exact unmistakable_of_head? (by decide) (by decide) (by decide)
    · exact unmistakable_of_head? (by decide) (by decide) (by decide)
  have hcheck : (check (questionOps.foldl apply initial) .uniform questionCall).violation? =
      some (.methodArguments "?" "set" "(int, ?)" "(null, ?)") := by
    rw [violation?_check, Check.visit_eq, Report.violation?_andThen, Check.node,
      questionCall_breaks.violation?_eq_some, Option.some_or]
  obtain ⟨-, hsides⟩ := reported_mismatch_shows_two_texts questionOps hops
  exact ⟨hops, hcheck, (hsides .uniform questionCall).2.2 _ _ _ _ hcheck⟩

end ClassTable

end JavaChecker
