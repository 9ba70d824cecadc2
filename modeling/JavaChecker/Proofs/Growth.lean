import JavaChecker.Proofs.Embedding
import JavaChecker.Proofs.Updates

/-!
# JavaChecker.Proofs.Growth

A table that only grows. `Op.Spares n` says of an operation, on the table it meets, that it replaces
no definition below position `n`; `GrowsTo` is a run of such operations. A run that spares all
classes of the table it starts from leaves every one of them where and what it was (`Extends`).

A table inside its extension is an embedding along the identity as soon as it is closed: were an
identifier mentioned before it is defined, the class defined for it later could give an answer that
was not there. So all results about embeddings hold of a growing table, with equal names and
therefore equal texts.
-/

namespace JavaChecker

namespace ClassTable

variable {t t' : ClassTable}

/-! ### Runs that replace no early definition -/

/-- The operation, on this table, replaces no definition below the position: a class is added only
under a name that none of the classes there has, and defined only behind an identifier from the
position on, unless the definition is refused. -/
def Op.Spares (n : Nat) (t : ClassTable) : Op → Prop
  | .intern _ => True
  | .add c => ∀ id d, id.index < n → t.class? id = some d → d.name ≠ c.name
  | .define id c => n ≤ id.index ∨ ∃ err t', t.define id c = .error err t'

/-- Operations lead from the first table to the second, and each replaces no definition below the
position at the moment it is carried out. -/
inductive GrowsTo (n : Nat) (t : ClassTable) : ClassTable → Prop where
  | refl : GrowsTo n t t
  | step {t' : ClassTable} (op : Op) :
      GrowsTo n t t' → op.Spares n t' → GrowsTo n t (t'.apply op)

/-- The second table has every class of the first, under its identifier. -/
structure Extends (t t' : ClassTable) : Prop where
  wellKnown_eq : t'.wellKnown = t.wellKnown
  class?_eq : ∀ {id : ClassId} {c : ClassDef}, t.class? id = some c → t'.class? id = some c

theorem class?_apply_of_spares {n : Nat} {op : Op} (hcons : t.Consistent) (hop : op.Spares n t)
    {x : ClassId} {d : ClassDef} (hx : x.index < n) (hd : t.class? x = some d) :
    (t.apply op).class? x = some d := by
  cases op with
  | intern name =>
      cases h : t.intern name with
      | none => simpa [apply, h] using hd
      | some r =>
          simp only [apply, h, Option.map_some, Option.getD_some]
          rcases intern_cases h with ⟨heq, -⟩ | ⟨hnone, hupdate⟩
          · rwa [heq]
          · -- The placeholder went where there was no class.
            have hne : x ≠ r.2 := by
              rintro rfl
              rw [hnone] at hd
              cases hd
            rw [hupdate.class?_of_ne hne, hd]
  | add c =>
      cases h : t.add c with
      | none => simpa [apply, h] using hd
      | some r =>
          simp only [apply, h, Option.map_some, Option.getD_some]
          obtain ⟨hupdate, hreplaced⟩ := update_of_add hcons h
          have hne : x ≠ r.2 := fun heq => hop x d hx hd (hreplaced d (heq ▸ hd))
          rw [hupdate.class?_of_ne hne, hd]
  | define id c =>
      cases h : t.define id c with
      | error err t' =>
          rw [apply, h, eq_of_define_error h]
          exact hd
      | ok _ t' =>
          simp only [apply, h]
          have hid : n ≤ id.index := by
            rcases hop with hid | ⟨err, _, herr⟩
            · exact hid
            · rw [h] at herr
              cases herr
          have hne : x ≠ id := by
            rintro rfl
            omega
          rw [(update_of_define h).2.class?_of_ne hne, hd]

/-- A run that spares the classes of its first table extends that table. -/
theorem GrowsTo.extends (h : GrowsTo t.size t t') (hreach : t.Reachable) :
    t'.Reachable ∧ Extends t t' := by
  induction h with
  | refl => exact ⟨hreach, rfl, fun hc => hc⟩
  | step op _ hop ih =>
      obtain ⟨hreach', hext⟩ := ih
      refine ⟨hreach'.step op, ?_, ?_⟩
      · rw [(change_apply _ op).wellKnown_eq, hext.wellKnown_eq]
      · intro id c hc
        exact class?_apply_of_spares hreach'.consistent hop (index_lt_of_class? hc)
          (hext.class?_eq hc)

/-! ### A table inside its extension -/

theorem Extends.keepsNames (h : Extends t t') : KeepsNames id t t' :=
  fun _ c hc => ⟨c, h.class?_eq hc, rfl⟩

theorem Extends.renumbers (h : Extends t t') : Renumbers id t t' where
  object_eq := h.wellKnown_eq ▸ rfl
  injective _ _ heq := heq
  carries {_ c} hc := ⟨c.name, by simpa using h.class?_eq hc⟩

/-- A closed table gives the same answers after any run of operations that replace none of its
definitions: to every question about the types it knows, and to every check of an expression over
them, errors included. -/
theorem growth_keeps_every_answer (t t' : ClassTable) (hreach : t.Reachable) (hclosed : t.Closed)
    (hgrow : GrowsTo t.size t t') :
    (∀ a b : Ty, a.Within t.Defines → b.Within t.Defines →
      t'.isSubtype a b = t.isSubtype a b) ∧
    (∀ ty : Ty, ty.Within t.Defines →
      (∀ name, t'.method? ty name = t.method? ty name) ∧
      t'.constructor? ty = t.constructor? ty ∧
      t'.isInstantiable ty = t.isInstantiable ty ∧
      t'.render ty = t.render ty) ∧
    ∀ (p : Policy) (e : Expr), e.Within t.Defines →
      (check t' p e).violation? = (check t p e).violation? := by
  obtain ⟨-, hext⟩ := hgrow.extends hreach
  have hembeds : Embeds t.Defines id t t' :=
    hext.renumbers.embeds hreach.exists_object hclosed
  refine ⟨?_, ?_, ?_⟩
  · intro a b ha hb
    simpa using hembeds.isSubtype_rename ha hb
  · intro ty hty
    refine ⟨?_, ?_, ?_, ?_⟩
    · intro name
      simpa using hembeds.method?_rename hty name
    · simpa using hembeds.constructor?_rename hty
    · simpa using hembeds.isInstantiable_rename hty
    · simpa using hext.keepsNames.render_rename hty
  · intro p e he
    simpa using violation?_check_rename hembeds hext.keepsNames p he

/-- The initial table after operations that spare its two classes: a name is interned, a class
added below it, the placeholder defined under another name, and a definition of the root refused. -/
def grown : ClassTable :=
  (((initial.apply (.intern "A")).apply
    (.add { name := "B", kind := .interface, supertypes := [⟨2⟩] })).apply
    (.define ⟨2⟩ { name := "C", kind := .abstract, supertypes := [⟨3⟩, ⟨0⟩] })).apply
    (.define ⟨0⟩ { objectClass with name := "String" })

theorem initial_growsTo_grown : GrowsTo initial.size initial grown := by
  refine .step _ (.step _ (.step _ (.step _ .refl trivial) ?_) ?_) ?_
  · intro id d _ hd
    have hcons := (Reachable.initial.step (.intern "A")).consistent
    exact hcons.lookup?_eq_none_iff.mp (by decide) id d hd
  · exact .inl (by decide)
  · exact .inr ⟨.nameTaken "String", _, rfl⟩

/-- The initial table grows to four classes, and a call on text with a superfluous argument is
rejected by the grown table as it was before. -/
theorem growth_keeps_answers_of_initial :
    initial.Closed ∧ GrowsTo initial.size initial grown ∧ grown.size = 4 ∧
      (check grown .uniform (.call (.var "s" (.ofClass ⟨1⟩)) "length" [.null])).violation? =
        (check initial .uniform (.call (.var "s" (.ofClass ⟨1⟩)) "length" [.null])).violation? := by
  refine ⟨initial_closed, initial_growsTo_grown, by decide, ?_⟩
  obtain ⟨-, -, hcheck⟩ :=
    growth_keeps_every_answer initial grown .initial initial_closed initial_growsTo_grown
  refine hcheck .uniform _ (.call (.var ⟨stringClass, rfl⟩) ?_)
  intro e he
  exact List.mem_singleton.mp he ▸ .null

end ClassTable

end JavaChecker
