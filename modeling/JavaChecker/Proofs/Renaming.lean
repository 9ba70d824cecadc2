import JavaChecker.ClassDef
import JavaChecker.Proofs.Visit

/-!
# JavaChecker.Proofs.Renaming

Class identifiers replaced throughout: in types, in definitions and in expressions.

`rename f` replaces every class identifier by its image under `f` and leaves all else as it is,
names of classes, methods and variables included. `Within P` says that every class identifier
mentioned satisfies `P`; it is how later modules say that an expression, or a definition, mentions
defined classes only.
-/

namespace JavaChecker

variable {f : ClassId → ClassId} {P : ClassId → Prop}

/-! ### Types -/

namespace Ty

/-- The type with its class identifier replaced. -/
def rename (f : ClassId → ClassId) : Ty → Ty
  | .void => .void
  | .primitive p => .primitive p
  | .null => .null
  | .ofClass id => .ofClass (f id)

/-- The class identifier of the type, if it has one, satisfies the condition. -/
def Within (P : ClassId → Prop) : Ty → Prop
  | .ofClass id => P id
  | .void | .primitive _ | .null => True

instance [DecidablePred P] : DecidablePred (Within P) := fun ty =>
  match ty with
  | .ofClass id => inferInstanceAs (Decidable (P id))
  | .void | .primitive _ | .null => isTrue trivial

theorem within_of_forall (h : ∀ id, P id) (ty : Ty) : ty.Within P := by
  cases ty with
  | ofClass id => exact h id
  | void | primitive _ | null => trivial

@[simp] theorem rename_id : Ty.rename id = id := by
  funext ty
  cases ty <;> rfl

theorem rename_eq_self {ty : Ty} (h : ty.Within P) (hf : ∀ id, P id → f id = id) :
    ty.rename f = ty := by
  cases ty with
  | ofClass id => exact congrArg Ty.ofClass (hf id h)
  | void | primitive _ | null => rfl

theorem map_rename_eq_self {tys : List Ty} (h : ∀ ty ∈ tys, ty.Within P)
    (hf : ∀ id, P id → f id = id) : tys.map (Ty.rename f) = tys := by
  rw [List.map_congr_left fun ty hty => rename_eq_self (h ty hty) hf, List.map_id']

@[simp] theorem isReference_rename (ty : Ty) : (ty.rename f).isReference = ty.isReference := by
  cases ty <;> rfl

end Ty

/-! ### Definitions -/

namespace MethodDef

def rename (f : ClassId → ClassId) (m : MethodDef) : MethodDef :=
  { m with params := m.params.map (Ty.rename f), returnType := m.returnType.rename f }

def Within (P : ClassId → Prop) (m : MethodDef) : Prop :=
  (∀ ty ∈ m.params, ty.Within P) ∧ m.returnType.Within P

instance [DecidablePred P] : DecidablePred (Within P) := fun m =>
  inferInstanceAs (Decidable ((∀ ty ∈ m.params, ty.Within P) ∧ m.returnType.Within P))

@[simp] theorem rename_id : MethodDef.rename id = id := by
  funext m
  simp [rename]

theorem rename_eq_self {m : MethodDef} (h : m.Within P) (hf : ∀ id, P id → f id = id) :
    m.rename f = m := by
  rw [rename, Ty.map_rename_eq_self h.1 hf, Ty.rename_eq_self h.2 hf]

end MethodDef

namespace ConstructorDef

def rename (f : ClassId → ClassId) (k : ConstructorDef) : ConstructorDef :=
  { params := k.params.map (Ty.rename f) }

def Within (P : ClassId → Prop) (k : ConstructorDef) : Prop := ∀ ty ∈ k.params, ty.Within P

instance [DecidablePred P] : DecidablePred (Within P) := fun k =>
  inferInstanceAs (Decidable (∀ ty ∈ k.params, ty.Within P))

@[simp] theorem rename_id : ConstructorDef.rename id = id := by
  funext k
  simp [rename]

theorem rename_eq_self {k : ConstructorDef} (h : k.Within P) (hf : ∀ id, P id → f id = id) :
    k.rename f = k := by
  rw [rename, Ty.map_rename_eq_self h hf]

end ConstructorDef

namespace ClassDef

/-- The definition with every class identifier in it replaced; the name stays. -/
def rename (f : ClassId → ClassId) (c : ClassDef) : ClassDef :=
  { c with
    supertypes := c.supertypes.map f
    constructor? := c.constructor?.map (ConstructorDef.rename f)
    methods := c.methods.map (MethodDef.rename f) }

/-- Every class identifier that the definition mentions satisfies the condition: those of its
supertypes, of its constructor's parameters, and of its methods' parameters and results. -/
structure Within (P : ClassId → Prop) (c : ClassDef) : Prop where
  supertypes : ∀ id ∈ c.supertypes, P id
  constructor : ∀ k, c.constructor? = some k → k.Within P
  methods : ∀ m ∈ c.methods, m.Within P

instance [DecidablePred P] : DecidablePred (Within P) := fun c =>
  decidable_of_iff
    ((∀ id ∈ c.supertypes, P id) ∧ (∀ k ∈ c.constructor?, k.Within P) ∧ ∀ m ∈ c.methods, m.Within P)
    ⟨fun h => ⟨h.1, h.2.1, h.2.2⟩, fun h => ⟨h.supertypes, h.constructor, h.methods⟩⟩

@[simp] theorem name_rename (c : ClassDef) : (c.rename f).name = c.name := rfl

theorem within_of_forall (h : ∀ id, P id) (c : ClassDef) : c.Within P where
  supertypes id _ := h id
  constructor _ _ ty _ := ty.within_of_forall h
  methods _ _ := ⟨fun ty _ => ty.within_of_forall h, Ty.within_of_forall h _⟩

@[simp] theorem rename_id : ClassDef.rename id = id := by
  funext c
  simp [rename]

/-- Replacing the identifiers that a definition mentions by themselves changes nothing. -/
theorem rename_eq_self {c : ClassDef} (h : c.Within P) (hf : ∀ id, P id → f id = id) :
    c.rename f = c := by
  have hsup : c.supertypes.map f = c.supertypes := by
    rw [List.map_congr_left fun id hid => hf id (h.supertypes id hid), List.map_id']
  have hctor : c.constructor?.map (ConstructorDef.rename f) = c.constructor? := by
    cases hk : c.constructor? with
    | none => rfl
    | some k => rw [Option.map_some, ConstructorDef.rename_eq_self (h.constructor k hk) hf]
  have hmethods : c.methods.map (MethodDef.rename f) = c.methods := by
    rw [List.map_congr_left fun m hm => MethodDef.rename_eq_self (h.methods m hm) hf, List.map_id']
  rw [rename, hsup, hctor, hmethods]

theorem declaredMethod?_rename (c : ClassDef) (name : String) :
    (c.rename f).declaredMethod? name = (c.declaredMethod? name).map (MethodDef.rename f) := by
  rw [declaredMethod?, rename, List.find?_map]
  rfl

theorem instantiator_rename (c : ClassDef) :
    (c.rename f).instantiator = c.instantiator.rename f := by
  cases hk : c.constructor? <;> simp [instantiator, rename, ConstructorDef.rename, hk]

end ClassDef

/-! ### Expressions -/

namespace Expr

mutual

/-- The expression with every class identifier in it replaced. -/
def rename (f : ClassId → ClassId) : Expr → Expr
  | .var name ty => .var name (ty.rename f)
  | .lit text ty => .lit text (ty.rename f)
  | .null => .null
  | .assign name ty rhs => .assign name (ty.rename f) (rename f rhs)
  | .call receiver method args => .call (rename f receiver) method (renameAll f args)
  | .new ty args => .new (ty.rename f) (renameAll f args)

def renameAll (f : ClassId → ClassId) : List Expr → List Expr
  | [] => []
  | e :: es => rename f e :: renameAll f es

end

theorem renameAll_eq_map (es : List Expr) : renameAll f es = es.map (rename f) := by
  induction es with
  | nil => rfl
  | cons e es ih => rw [renameAll, ih, List.map_cons]

/-- Every class identifier that the expression mentions satisfies the condition. -/
inductive Within (P : ClassId → Prop) : Expr → Prop where
  | var {name : String} {ty : Ty} : ty.Within P → Within P (.var name ty)
  | lit {text : String} {ty : Ty} : ty.Within P → Within P (.lit text ty)
  | null : Within P .null
  | assign {name : String} {ty : Ty} {rhs : Expr} :
      ty.Within P → Within P rhs → Within P (.assign name ty rhs)
  | call {receiver : Expr} {method : String} {args : List Expr} :
      Within P receiver → (∀ e ∈ args, Within P e) → Within P (.call receiver method args)
  | new {ty : Ty} {args : List Expr} :
      ty.Within P → (∀ e ∈ args, Within P e) → Within P (.new ty args)

theorem within_of_forall (h : ∀ id, P id) (e : Expr) : e.Within P := by
  induction e using children_induction with
  | node e ih =>
      cases e with
      | var name ty => exact .var (ty.within_of_forall h)
      | lit text ty => exact .lit (ty.within_of_forall h)
      | null => exact .null
      | assign name ty rhs =>
          exact .assign (ty.within_of_forall h) (ih rhs (List.mem_singleton_self _))
      | call receiver method args =>
          exact .call (ih receiver (List.mem_cons_self ..)) fun e he =>
            ih e (List.mem_cons_of_mem _ he)
      | new ty args => exact .new (ty.within_of_forall h) ih

theorem Within.children {e c : Expr} (h : e.Within P) (hc : c ∈ e.children) : c.Within P := by
  cases h with
  | var | lit | null => cases hc
  | assign _ hrhs => exact List.mem_singleton.mp hc ▸ hrhs
  | call hreceiver hargs =>
      rcases List.mem_cons.mp hc with rfl | hc
      · exact hreceiver
      · exact hargs c hc
  | new _ hargs => exact hargs c hc

theorem Within.staticType? {e : Expr} {ty : Ty} (h : e.Within P) (hty : e.staticType? = some ty) :
    ty.Within P := by
  cases h with
  | var h | lit h | assign h _ | new h _ => exact Option.some.inj hty ▸ h
  | null => exact Option.some.inj hty ▸ trivial
  | call => cases hty

theorem children_rename (e : Expr) : (e.rename f).children = e.children.map (rename f) := by
  cases e with
  | var | lit | null => rfl
  | assign => rfl
  | call => rw [rename, children, renameAll_eq_map, children, List.map_cons]
  | new => rw [rename, children, renameAll_eq_map, children]

@[simp] theorem staticType?_rename (e : Expr) :
    (e.rename f).staticType? = e.staticType?.map (Ty.rename f) := by
  cases e <;> rfl

@[simp] theorem isNew_rename (e : Expr) : (e.rename f).isNew = e.isNew := by
  cases e <;> rfl

@[simp] theorem rename_id : Expr.rename id = id := by
  funext e
  induction e using children_induction with
  | node e ih =>
      cases e with
      | var | lit => simp [rename]
      | null => rfl
      | assign name ty rhs => simp [rename, ih rhs (List.mem_singleton_self _)]
      | call receiver method args =>
          have hargs : args.map (rename id) = args.map id :=
            List.map_congr_left fun e he => ih e (List.mem_cons_of_mem _ he)
          simp [rename, renameAll_eq_map, ih receiver (List.mem_cons_self ..), hargs]
      | new ty args =>
          have hargs : args.map (rename id) = args.map id := List.map_congr_left ih
          simp [rename, renameAll_eq_map, hargs]

end Expr

theorem Policy.descends_rename (p : Policy) (e : Expr) :
    p.descends (e.rename f) = p.descends e := by
  cases p with
  | uniform => rfl
  | constructorArgsOnly => exact e.isNew_rename

end JavaChecker
