import JavaChecker.Proofs.Arguments
import JavaChecker.Proofs.Lookup
import JavaChecker.Proofs.Renaming

/-!
# JavaChecker.Proofs.Embedding

One part of a table inside another table. `Embeds S f t u` speaks of a set `S` of identifiers that
the definitions of `t` never lead out of. On `S`, `u` says at `f id` what `t` says at `id`: the same
definition with identifiers replaced by `f`, under whatever name, or none. So the searches in `u`
never leave the image of `S`, and a walk in `u` is the image of the walk in `t`, identifier by
identifier (`Embeds.walk_eq`). From there the correspondence goes up through everything that reads a
table: subtyping, lookup, the rules of a node, the check.

A closed table, which mentions no undefined identifier, gives such a set by itself
(`Renumbers.embeds`).

The texts of types in an error depend on what the classes are called. The results about errors are
therefore stated for any relation between texts under which corresponding types are rendered alike
(`RendersAlike`): for equality where the names of classes are kept, and for the relation that holds
of all texts where they are not.
-/

namespace JavaChecker

/-! ### Errors up to the texts of types -/

/-- The errors are of one variant and agree in all counts and in the names of variables and
methods. The texts that stand for types in them are related by `R`. -/
inductive TypeError.Alike (R : String → String → Prop) : TypeError → TypeError → Prop where
  | assignment {value value' name ty ty' : String} : R value value' → R ty ty' →
      Alike R (.assignment value name ty) (.assignment value' name ty')
  | methodArguments {receiver receiver' method expected expected' actual actual' : String} :
      R receiver receiver' → R expected expected' → R actual actual' →
      Alike R (.methodArguments receiver method expected actual)
        (.methodArguments receiver' method expected' actual')
  | constructorArgument {ty ty' expected expected' actual actual' : String} :
      R ty ty' → R expected expected' → R actual actual' →
      Alike R (.constructorArgument ty expected actual) (.constructorArgument ty' expected' actual')
  | methodCount {receiver receiver' method : String} {expected actual : Nat} :
      R receiver receiver' →
      Alike R (.argumentCount (.method receiver method) expected actual)
        (.argumentCount (.method receiver' method) expected actual)
  | constructorCount {ty ty' : String} {expected actual : Nat} : R ty ty' →
      Alike R (.argumentCount (.constructor ty) expected actual)
        (.argumentCount (.constructor ty') expected actual)
  | noSuchMethod {receiver receiver' method : String} : R receiver receiver' →
      Alike R (.noSuchMethod receiver method) (.noSuchMethod receiver' method)
  | illegalInstantiation {ty ty' : String} : R ty ty' →
      Alike R (.illegalInstantiation ty) (.illegalInstantiation ty')

theorem TypeError.Alike.eq {err err' : TypeError} (h : Alike Eq err err') : err = err' := by
  cases h <;> simp_all

namespace ClassTable

variable {S : ClassId → Prop} {f : ClassId → ClassId} {t u : ClassTable}

/-! ### Embeddings -/

/-- On the identifiers of `S`, the second table says what the first does, with identifiers replaced
by `f` and under any names; and the definitions of the first do not lead out of `S`. -/
structure Embeds (S : ClassId → Prop) (f : ClassId → ClassId) (t u : ClassTable) : Prop where
  object_mem : S t.wellKnown.object
  closed : ∀ {id : ClassId} {c : ClassDef}, S id → t.class? id = some c → c.Within S
  object_eq : f t.wellKnown.object = u.wellKnown.object
  injective : ∀ {a b : ClassId}, S a → S b → f a = f b → a = b
  class?_eq : ∀ {id : ClassId}, S id →
    ∃ name, u.class? (f id) = (t.class? id).map fun c => { c.rename f with name }

namespace Embeds

theorem mem_of_mem_supertypesOf (h : Embeds S f t u) {id sup : ClassId} (hid : S id)
    (hsup : sup ∈ t.supertypesOf id) : S sup := by
  obtain ⟨c, hc, hmem⟩ := mem_supertypesOf.mp hsup
  exact (h.closed hid hc).supertypes sup hmem

theorem mem_of_ancestor (h : Embeds S f t u) {a b : ClassId} (ha : S a) (hab : t.Ancestor a b) :
    S b := by
  induction hab with
  | refl => exact ha
  | tail _ hstep ih => exact h.mem_of_mem_supertypesOf ih (mem_supertypesOf.mpr hstep)

theorem mem_map_iff (h : Embeds S f t u) {id : ClassId} {ids : List ClassId} (hid : S id)
    (hids : ∀ x ∈ ids, S x) : f id ∈ ids.map f ↔ id ∈ ids := by
  refine ⟨?_, List.mem_map_of_mem⟩
  intro hmem
  obtain ⟨x, hx, heq⟩ := List.mem_map.mp hmem
  exact h.injective (hids x hx) hid heq ▸ hx

/-! ### The walk -/

theorem supertypesOf_eq (h : Embeds S f t u) {id : ClassId} (hid : S id) :
    u.supertypesOf (f id) = (t.supertypesOf id).map f := by
  obtain ⟨name, hd⟩ := h.class?_eq hid
  rw [supertypesOf, supertypesOf, hd]
  cases t.class? id <;> rfl

/-- Queue by queue and step by step, the walk in the second table is the image of the walk in the
first. -/
theorem walkFrom_eq (h : Embeds S f t u) {queue seen : List ClassId} (hqueue : ∀ x ∈ queue, S x)
    (hseen : ∀ x ∈ seen, S x) :
    u.walkFrom (queue.map f) (seen.map f) = (t.walkFrom queue seen).map f := by
  induction queue, seen using walk_induction (t := t) with
  | nil seen => rw [List.map_nil, walkFrom_nil, walkFrom_nil, List.map_nil]
  | skip id rest seen hs ih =>
      rw [List.map_cons, walkFrom_seen (List.mem_map_of_mem hs), walkFrom_seen hs, List.map_cons,
        ih (fun x hx => hqueue x (List.mem_cons_of_mem _ hx)) hseen]
  | take id rest seen hs ih =>
      have hid : S id := hqueue id (List.mem_cons_self ..)
      -- An identifier that was not taken has an image that was not taken: here `f` is injective.
      have hfresh : f id ∉ seen.map f := mt (h.mem_map_iff hid hseen).mp hs
      have hqueue' : ∀ x ∈ rest ++ t.supertypesOf id, S x := by
        intro x hx
        rcases List.mem_append.mp hx with hx | hx
        · exact hqueue x (List.mem_cons_of_mem _ hx)
        · exact h.mem_of_mem_supertypesOf hid hx
      have hseen' : ∀ x ∈ id :: seen, S x := List.forall_mem_cons.mpr ⟨hid, hseen⟩
      rw [List.map_cons, walkFrom_fresh hfresh, walkFrom_fresh hs, h.supertypesOf_eq hid,
        ← List.map_append, ← List.map_cons, ih hqueue' hseen', List.map_cons]

theorem walk_eq (h : Embeds S f t u) {start : ClassId} (hstart : S start) :
    u.walk (f start) = (t.walk start).map f :=
  h.walkFrom_eq (List.forall_mem_singleton.mpr hstart) fun _ hx => absurd hx List.not_mem_nil

theorem mem_of_mem_walk (h : Embeds S f t u) {start id : ClassId} (hstart : S start)
    (hid : id ∈ t.walk start) : S id :=
  h.mem_of_ancestor hstart (mem_walk_iff.mp hid)

theorem mem_walk_iff_mem_walk (h : Embeds S f t u) {start id : ClassId} (hstart : S start)
    (hid : S id) : f id ∈ u.walk (f start) ↔ id ∈ t.walk start := by
  rw [h.walk_eq hstart]
  exact h.mem_map_iff hid fun x hx => h.mem_of_mem_walk hstart hx

/-! ### Subtyping -/

theorem isSubtype_rename (h : Embeds S f t u) {a b : Ty} (ha : a.Within S) (hb : b.Within S) :
    u.isSubtype (a.rename f) (b.rename f) = t.isSubtype a b := by
  cases a with
  | void | primitive _ => cases b <;> simp [Ty.rename, isSubtype]
  | null => rw [Ty.rename, isSubtype_null, isSubtype_null, Ty.isReference_rename]
  | ofClass x =>
      cases b with
      | void | primitive _ | null => simp [Ty.rename, isSubtype]
      | ofClass y =>
          have hobject : f y = u.wellKnown.object ↔ y = t.wellKnown.object := by
            rw [← h.object_eq]
            exact ⟨h.injective hb h.object_mem, congrArg f⟩
          rw [Bool.eq_iff_iff, isSubtype_iff, isSubtype_iff, Ty.rename, Ty.rename,
            subtypeOf_ofClass_iff, subtypeOf_ofClass_iff, ← mem_walk_iff, ← mem_walk_iff,
            hobject, h.mem_walk_iff_mem_walk ha hb]

/-! ### Members -/

theorem declaredMethod?_eq (h : Embeds S f t u) {id : ClassId} (hid : S id) (name : String) :
    u.declaredMethod? (f id) name = (t.declaredMethod? id name).map (MethodDef.rename f) := by
  obtain ⟨name', hd⟩ := h.class?_eq hid
  rw [declaredMethod?, hd, declaredMethod?]
  cases t.class? id with
  | none => rfl
  | some c => exact c.declaredMethod?_rename name

theorem findSome?_map_eq (h : Embeds S f t u) {ids : List ClassId} (hids : ∀ x ∈ ids, S x)
    (name : String) :
    (ids.map f).findSome? (u.declaredMethod? · name) =
      (ids.findSome? (t.declaredMethod? · name)).map (MethodDef.rename f) := by
  induction ids with
  | nil => rfl
  | cons id ids ih =>
      obtain ⟨hid, hids⟩ := List.forall_mem_cons.mp hids
      rw [List.map_cons, List.findSome?_cons, List.findSome?_cons, h.declaredMethod?_eq hid]
      cases t.declaredMethod? id name with
      | none => exact ih hids
      | some m => rfl

theorem method?_rename (h : Embeds S f t u) {ty : Ty} (hty : ty.Within S) (name : String) :
    u.method? (ty.rename f) name = (t.method? ty name).map (MethodDef.rename f) := by
  cases ty with
  | void | primitive _ | null => rfl
  | ofClass start =>
      have hfind : (u.walk (f start)).findSome? (u.declaredMethod? · name) =
          ((t.walk start).findSome? (t.declaredMethod? · name)).map (MethodDef.rename f) := by
        rw [h.walk_eq hty]
        exact h.findSome?_map_eq (fun x hx => h.mem_of_mem_walk hty hx) name
      -- The root is the last resort of both lookups, and only where the walk did not meet it.
      have htaken : (u.walk (f start)).contains u.wellKnown.object =
          (t.walk start).contains t.wellKnown.object := by
        rw [Bool.eq_iff_iff, List.contains_iff_mem, List.contains_iff_mem, ← h.object_eq,
          h.mem_walk_iff_mem_walk hty h.object_mem]
      rw [Ty.rename, method?, method?, hfind, htaken]
      cases (t.walk start).findSome? (t.declaredMethod? · name) with
      | some m => rfl
      | none =>
          dsimp only [Option.map_none]
          split
          · rfl
          · rw [← h.object_eq, h.declaredMethod?_eq h.object_mem]

/-- A method that a lookup finds mentions identifiers of `S` only. -/
theorem method?_within (h : Embeds S f t u) {ty : Ty} {name : String} {m : MethodDef}
    (hty : ty.Within S) (hm : t.method? ty name = some m) : m.Within S := by
  cases ty with
  | void | primitive _ | null => cases hm
  | ofClass start =>
      obtain ⟨id, habove, hfound⟩ := (method?_eq_some_iff.mp hm).exists_declared
      have hid : S id := habove.elim (h.mem_of_ancestor hty) fun heq => heq ▸ h.object_mem
      obtain ⟨c, hc, hm⟩ := Option.bind_eq_some_iff.mp hfound
      exact (h.closed hid hc).methods m (List.mem_of_find?_eq_some hm)

theorem constructor?_rename (h : Embeds S f t u) {ty : Ty} (hty : ty.Within S) :
    u.constructor? (ty.rename f) = (t.constructor? ty).map (ConstructorDef.rename f) := by
  cases ty with
  | void | primitive _ | null => rfl
  | ofClass id =>
      obtain ⟨name, hd⟩ := h.class?_eq hty
      rw [Ty.rename, constructor?, constructor?, hd]
      cases t.class? id with
      | none => rfl
      | some c => exact congrArg some c.instantiator_rename

theorem constructor?_within (h : Embeds S f t u) {ty : Ty} {k : ConstructorDef}
    (hty : ty.Within S) (hk : t.constructor? ty = some k) : k.Within S := by
  cases ty with
  | void | primitive _ | null => cases hk
  | ofClass id =>
      obtain ⟨c, hc, rfl⟩ := Option.map_eq_some_iff.mp hk
      cases hdecl : c.constructor? with
      | none => simp [ClassDef.instantiator, hdecl, ConstructorDef.Within]
      | some k => simpa [ClassDef.instantiator, hdecl] using (h.closed hty hc).constructor k hdecl

theorem isInstantiable_rename (h : Embeds S f t u) {ty : Ty} (hty : ty.Within S) :
    u.isInstantiable (ty.rename f) = t.isInstantiable ty := by
  cases ty with
  | void | primitive _ | null => rfl
  | ofClass id =>
      obtain ⟨name, hd⟩ := h.class?_eq hty
      rw [Ty.rename, isInstantiable, isInstantiable, hd]
      cases t.class? id <;> rfl

/-! ### Arguments -/

theorem firstMisfit?_rename (h : Embeds S f t u) {args : List (Option Ty)} {params : List Ty}
    (hargs : ∀ ty, some ty ∈ args → ty.Within S)
    (hparams : ∀ ty ∈ params, ty.Within S) :
    u.firstMisfit? (args.map (Option.map (Ty.rename f))) (params.map (Ty.rename f)) =
      (t.firstMisfit? args params).map (Prod.map (Ty.rename f) (Ty.rename f)) := by
  induction args generalizing params with
  | nil => rfl
  | cons arg args ih =>
      cases params with
      | nil => rfl
      | cons param params =>
          obtain ⟨hparam, hparams⟩ := List.forall_mem_cons.mp hparams
          have ih' := ih (fun ty hty => hargs ty (List.mem_cons_of_mem _ hty)) hparams
          cases arg with
          | none => exact ih'
          | some ty =>
              have hsub := h.isSubtype_rename (hargs ty (List.mem_cons_self ..)) hparam
              rw [List.map_cons, List.map_cons, Option.map_some, firstMisfit?, firstMisfit?, hsub]
              split
              · exact ih'
              · rfl

theorem accepts_rename (h : Embeds S f t u) {args : List (Option Ty)} {params : List Ty}
    (hargs : ∀ ty, some ty ∈ args → ty.Within S)
    (hparams : ∀ ty ∈ params, ty.Within S) :
    u.accepts (args.map (Option.map (Ty.rename f))) (params.map (Ty.rename f)) =
      t.accepts args params := by
  rw [accepts_eq_isNone, accepts_eq_isNone, h.firstMisfit?_rename hargs hparams,
    Option.isNone_map]

end Embeds

/-! ### Closed tables -/

/-- The table has a class with this identifier. -/
def Defines (t : ClassTable) (id : ClassId) : Prop := ∃ c, t.class? id = some c

/-- Every class identifier that a definition of the table mentions is defined. -/
def Closed (t : ClassTable) : Prop := ∀ id c, t.class? id = some c → c.Within t.Defines

instance (t : ClassTable) : DecidablePred t.Defines := fun id =>
  decidable_of_iff ((t.class? id).isSome = true) Option.isSome_iff_exists

theorem closed_of_forall_mem (h : ∀ c ∈ t.classes.toList, c.Within t.Defines) : t.Closed := by
  intro id c hc
  exact h c (Array.mem_toList_iff.mpr (Array.mem_of_getElem? hc))

theorem initial_closed : initial.Closed := closed_of_forall_mem (by decide)

/-- The second table holds the classes of the first at identifiers that `f` gives: it takes the root
to the root and different classes to different ones, and it carries the kind of each class, its
supertypes, its constructor and its methods, in order. Names of classes may differ. -/
structure Renumbers (f : ClassId → ClassId) (t u : ClassTable) : Prop where
  object_eq : f t.wellKnown.object = u.wellKnown.object
  injective : ∀ {a b : ClassId}, t.Defines a → t.Defines b → f a = f b → a = b
  carries : ∀ {id : ClassId} {c : ClassDef}, t.class? id = some c →
    ∃ name, u.class? (f id) = some { c.rename f with name }

/-- A closed table never leads out of the identifiers it defines. -/
theorem Renumbers.embeds (h : Renumbers f t u) (hroot : t.Defines t.wellKnown.object)
    (hclosed : t.Closed) : Embeds t.Defines f t u where
  object_mem := hroot
  closed _ hc := hclosed _ _ hc
  object_eq := h.object_eq
  injective := h.injective
  class?_eq := by
    rintro id ⟨c, hc⟩
    obtain ⟨name, hd⟩ := h.carries hc
    exact ⟨name, by rw [hc, hd, Option.map_some]⟩

/-! ### Texts of types -/

/-- Types that correspond are rendered alike, as far as `R` can tell, alone and in lists. -/
structure RendersAlike (R : String → String → Prop) (S : ClassId → Prop) (f : ClassId → ClassId)
    (t u : ClassTable) : Prop where
  ty : ∀ {ty : Ty}, ty.Within S → R (t.render ty) (u.render (ty.rename f))
  tuple : ∀ {tys : List (Option Ty)}, (∀ ty, some ty ∈ tys → ty.Within S) →
    R (t.renderTuple tys) (u.renderTuple (tys.map (Option.map (Ty.rename f))))

theorem rendersAlike_true (S : ClassId → Prop) (f : ClassId → ClassId) (t u : ClassTable) :
    RendersAlike (fun _ _ => True) S f t u :=
  ⟨fun _ => trivial, fun _ => trivial⟩

/-- The second table calls a class by the name it has in the first. -/
def KeepsNames (f : ClassId → ClassId) (t u : ClassTable) : Prop :=
  ∀ id c, t.class? id = some c → ∃ d, u.class? (f id) = some d ∧ d.name = c.name

theorem KeepsNames.render_rename (h : KeepsNames f t u) {ty : Ty} (hty : ty.Within t.Defines) :
    u.render (ty.rename f) = t.render ty := by
  cases ty with
  | void | primitive _ | null => rfl
  | ofClass id =>
      obtain ⟨c, hc⟩ := hty
      obtain ⟨d, hd, hname⟩ := h id c hc
      rw [Ty.rename, render, render, hc, hd]
      exact hname

theorem KeepsNames.rendersAlike (h : KeepsNames f t u) : RendersAlike Eq t.Defines f t u where
  ty hty := (h.render_rename hty).symm
  tuple {tys} htys := by
    have hparts : tys.map (fun ty? => ty?.elim "?" t.render) =
        (tys.map (Option.map (Ty.rename f))).map fun ty? => ty?.elim "?" u.render := by
      rw [List.map_map]
      refine List.map_congr_left fun ty? hmem => ?_
      cases ty? with
      | none => rfl
      | some ty => exact (h.render_rename (htys ty hmem)).symm
    rw [renderTuple, renderTuple, hparts]

end ClassTable

/-! ### The check -/

namespace Expr

variable {S : ClassId → Prop} {f : ClassId → ClassId} {t u : ClassTable}
  {R : String → String → Prop}

theorem map_staticType?_renameAll (args : List Expr) :
    (renameAll f args).map staticType? =
      (args.map staticType?).map (Option.map (Ty.rename f)) := by
  rw [renameAll_eq_map, List.map_map, List.map_map]
  exact List.map_congr_left fun e _ => e.staticType?_rename

theorem within_of_mem_staticTypes {P : ClassId → Prop} {args : List Expr}
    (hargs : ∀ e ∈ args, e.Within P) (ty : Ty) (hty : some ty ∈ args.map staticType?) :
    ty.Within P := by
  obtain ⟨e, he, heq⟩ := List.mem_map.mp hty
  exact (hargs e he).staticType? heq

theorem assignViolation?_rename (h : ClassTable.Embeds S f t u)
    (hR : ClassTable.RendersAlike R S f t u) (name : String) {ty : Ty} {value? : Option Ty}
    (hty : ty.Within S) (hvalue : ∀ value, value? = some value → value.Within S) :
    Option.Rel (TypeError.Alike R) (assignViolation? t name ty value?)
      (assignViolation? u name (ty.rename f) (value?.map (Ty.rename f))) := by
  cases value? with
  | none => exact .none
  | some value =>
      have hval := hvalue value rfl
      rw [Option.map_some, assignViolation?, assignViolation?, h.isSubtype_rename hval hty]
      split
      · exact .none
      · exact .some (.assignment (hR.ty hval) (hR.ty hty))

theorem callViolation?_rename (h : ClassTable.Embeds S f t u)
    (hR : ClassTable.RendersAlike R S f t u) (method : String) {receiver : Ty}
    {args : List (Option Ty)} (hreceiver : receiver.Within S)
    (hargs : ∀ ty, some ty ∈ args → ty.Within S) :
    Option.Rel (TypeError.Alike R) (callViolation? t receiver method args)
      (callViolation? u (receiver.rename f) method (args.map (Option.map (Ty.rename f)))) := by
  rw [callViolation?, callViolation?, h.method?_rename hreceiver]
  cases hm : t.method? receiver method with
  | none => exact .some (.noSuchMethod (hR.ty hreceiver))
  | some m =>
      have hparams : ∀ ty ∈ m.params, ty.Within S := (h.method?_within hreceiver hm).1
      dsimp only [Option.map_some, MethodDef.rename]
      rw [List.length_map, List.length_map, h.accepts_rename hargs hparams]
      split
      · exact .some (.methodCount (hR.ty hreceiver))
      · split
        · exact .none
        · have hexpected : R (t.renderTuple (m.params.map some)) _ :=
            hR.tuple (by simpa using hparams)
          rw [List.map_map] at hexpected
          rw [List.map_map]
          exact .some (.methodArguments (hR.ty hreceiver) hexpected (hR.tuple hargs))

theorem newViolation?_rename (h : ClassTable.Embeds S f t u)
    (hR : ClassTable.RendersAlike R S f t u) {ty : Ty} {args : List (Option Ty)}
    (hty : ty.Within S) (hargs : ∀ ty, some ty ∈ args → ty.Within S) :
    Option.Rel (TypeError.Alike R) (newViolation? t ty args)
      (newViolation? u (ty.rename f) (args.map (Option.map (Ty.rename f)))) := by
  rw [newViolation?, newViolation?, h.isInstantiable_rename hty, h.constructor?_rename hty]
  split
  · exact .some (.illegalInstantiation (hR.ty hty))
  · cases hk : t.constructor? ty with
    | none => exact .some (.illegalInstantiation (hR.ty hty))
    | some k =>
        have hparams : ∀ ty ∈ k.params, ty.Within S := h.constructor?_within hty hk
        dsimp only [Option.map_some, ConstructorDef.rename]
        rw [List.length_map, List.length_map, h.firstMisfit?_rename hargs hparams]
        split
        · exact .some (.constructorCount (hR.ty hty))
        · cases hmisfit : t.firstMisfit? args k.params with
          | none => exact .none
          | some pair =>
              obtain ⟨i, ⟨harg, hparam, -⟩, -⟩ := ClassTable.firstMisfit?_eq_some_iff.mp hmisfit
              exact .some (.constructorArgument (hR.ty hty)
                (hR.ty (hparams _ (List.mem_of_getElem? hparam)))
                (hR.ty (hargs _ (List.mem_of_getElem? harg))))

/-- A node and its image break corresponding rules, or none. -/
theorem violation?_rename (h : ClassTable.Embeds S f t u) (hR : ClassTable.RendersAlike R S f t u)
    {e : Expr} (he : e.Within S) :
    Option.Rel (TypeError.Alike R) (e.violation? t) ((e.rename f).violation? u) := by
  cases he with
  | var | lit | null => exact .none
  | @assign name ty rhs hty hrhs =>
      rw [rename, violation?, violation?, staticType?_rename]
      exact assignViolation?_rename h hR name hty fun value => hrhs.staticType?
  | @call receiver method args hreceiver hargs =>
      rw [rename, violation?, violation?, staticType?_rename, map_staticType?_renameAll]
      cases hty : receiver.staticType? with
      | none => exact .none
      | some ty =>
          exact callViolation?_rename h hR method (hreceiver.staticType? hty)
            (within_of_mem_staticTypes hargs)
  | @new ty args hty hargs =>
      rw [rename, violation?, violation?, map_staticType?_renameAll]
      exact newViolation?_rename h hR hty (within_of_mem_staticTypes hargs)

end Expr

theorem Report.rel_andThen {Q : TypeError → TypeError → Prop} {r s : Report}
    {next next' : Unit → Report} (h : Option.Rel Q r.violation? s.violation?)
    (hnext : Option.Rel Q (next ()).violation? (next' ()).violation?) :
    Option.Rel Q (r.andThen next).violation? (s.andThen next').violation? := by
  rw [violation?_andThen, violation?_andThen]
  generalize r.violation? = v, s.violation? = w at h
  cases h with
  | none => exact hnext
  | some h => exact .some h

namespace Check

variable {S : ClassId → Prop} {f : ClassId → ClassId} {t u : ClassTable}
  {R : String → String → Prop}

theorem visitAll_rename {p : Policy} {es : List Expr}
    (hes : ∀ e ∈ es, Option.Rel (TypeError.Alike R) (visit t p e).violation?
      (visit u p (e.rename f)).violation?) :
    Option.Rel (TypeError.Alike R) (visitAll t p es).violation?
      (visitAll u p (es.map (Expr.rename f))).violation? := by
  induction es with
  | nil => exact .none
  | cons e es ih =>
      obtain ⟨he, hes⟩ := List.forall_mem_cons.mp hes
      rw [visitAll, List.map_cons, visitAll]
      exact Report.rel_andThen he (ih hes)

theorem visit_rename (h : ClassTable.Embeds S f t u) (hR : ClassTable.RendersAlike R S f t u)
    (p : Policy) {e : Expr} (he : e.Within S) :
    Option.Rel (TypeError.Alike R) (visit t p e).violation?
      (visit u p (e.rename f)).violation? := by
  induction e using Expr.children_induction with
  | node e ih =>
      rw [visit_eq, visit_eq, p.descends_rename, e.children_rename]
      -- A policy looks at the shape of a node only, so both checks descend or neither does.
      refine Report.rel_andThen (Expr.violation?_rename h hR he) ?_
      split
      · exact visitAll_rename fun c hc => ih c hc (he.children hc)
      · exact .none

end Check

/-- **A check and the check of its image have the same outcome**, up to the texts of types. -/
theorem check_rename {S : ClassId → Prop} {f : ClassId → ClassId} {t u : ClassTable}
    {R : String → String → Prop} (h : ClassTable.Embeds S f t u)
    (hR : ClassTable.RendersAlike R S f t u) (p : Policy) {e : Expr} (he : e.Within S) :
    Option.Rel (TypeError.Alike R) (check t p e).violation?
      (check u p (e.rename f)).violation? := by
  rw [violation?_check, violation?_check]
  exact Check.visit_rename h hR p he

/-- Where the names of classes are kept, the outcomes are equal. -/
theorem violation?_check_rename {f : ClassId → ClassId} {t u : ClassTable}
    (h : ClassTable.Embeds t.Defines f t u) (hnames : ClassTable.KeepsNames f t u) (p : Policy)
    {e : Expr} (he : e.Within t.Defines) :
    (check u p (e.rename f)).violation? = (check t p e).violation? := by
  have hrel := check_rename h hnames.rendersAlike p he
  generalize (check t p e).violation? = v, (check u p (e.rename f)).violation? = w at hrel
  cases hrel with
  | none => rfl
  | some halike => rw [halike.eq]

end JavaChecker
