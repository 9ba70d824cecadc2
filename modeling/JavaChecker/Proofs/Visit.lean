import JavaChecker.Check.Run

/-!
# JavaChecker.Proofs.Visit

The order in which a check looks at the nodes of an expression.

`Expr.occurrences` lists the nodes of an expression in pre-order, each with the nodes it stands
under; it knows nothing of checks. `Policy.reaches` says of an occurrence whether a policy gets
there at all: always, or only under constructor calls. The nodes a check visits are the
occurrences its policy reaches, and `visit_eq_inOrder` shows that a check, which recurses over the
tree and breaks off at the first violation, is the check of these nodes one after the other. What
a check reports, and what it logs, can then be read off a list.
-/

namespace JavaChecker

namespace Expr

/-! ### Induction over children -/

mutual

/-- Induction over an expression: a property of the direct subexpressions passes to the
expression. -/
theorem children_induction {motive : Expr → Prop}
    (node : ∀ e, (∀ c ∈ e.children, motive c) → motive e) : ∀ e, motive e
  | .var .. => node _ (fun _ h => absurd h List.not_mem_nil)
  | .lit .. => node _ (fun _ h => absurd h List.not_mem_nil)
  | .null => node _ (fun _ h => absurd h List.not_mem_nil)
  | .assign _ _ rhs => node _ (fun _ h => List.mem_singleton.mp h ▸ children_induction node rhs)
  | .call receiver _ args => node _ (fun c h => by
      rcases List.mem_cons.mp h with heq | h
      · exact heq ▸ children_induction node receiver
      · exact children_induction_all node args c h)
  | .new _ args => node _ (children_induction_all node args)

theorem children_induction_all {motive : Expr → Prop}
    (node : ∀ e, (∀ c ∈ e.children, motive c) → motive e) : ∀ es : List Expr, ∀ c ∈ es, motive c
  | [], _, h => absurd h List.not_mem_nil
  | e :: es, c, h => by
      rcases List.mem_cons.mp h with heq | h
      · exact heq ▸ children_induction node e
      · exact children_induction_all node es c h

end

/-! ### Occurrences -/

/-- A node where it stands in an expression. -/
structure Occurrence where
  /-- The nodes above it, the nearest first; none for the root. -/
  above : List Expr
  node : Expr

mutual

/-- The nodes of an expression in pre-order, with the receiver of a call before its arguments and
arguments from left to right, when the expression itself stands under the given nodes. -/
def occurrencesUnder (above : List Expr) : Expr → List Occurrence
  | .var name ty => [⟨above, .var name ty⟩]
  | .lit text ty => [⟨above, .lit text ty⟩]
  | .null => [⟨above, .null⟩]
  | .assign name ty rhs =>
    ⟨above, .assign name ty rhs⟩ :: occurrencesUnder (.assign name ty rhs :: above) rhs
  | .call receiver method args =>
    ⟨above, .call receiver method args⟩ ::
      (occurrencesUnder (.call receiver method args :: above) receiver ++
        occurrencesUnderAll (.call receiver method args :: above) args)
  | .new ty args => ⟨above, .new ty args⟩ :: occurrencesUnderAll (.new ty args :: above) args

def occurrencesUnderAll (above : List Expr) : List Expr → List Occurrence
  | [] => []
  | e :: es => occurrencesUnder above e ++ occurrencesUnderAll above es

end

def occurrences (e : Expr) : List Occurrence := e.occurrencesUnder []

theorem occurrencesUnder_eq (above : List Expr) (e : Expr) :
    e.occurrencesUnder above = ⟨above, e⟩ :: occurrencesUnderAll (e :: above) e.children := by
  cases e with
  | var | lit | null => rfl
  | assign => simp [occurrencesUnder, occurrencesUnderAll, children]
  | call => simp [occurrencesUnder, occurrencesUnderAll, children]
  | new => simp [occurrencesUnder, children]

theorem mem_occurrencesUnderAll {above : List Expr} {es : List Expr} {o : Occurrence} :
    o ∈ occurrencesUnderAll above es ↔ ∃ e ∈ es, o ∈ e.occurrencesUnder above := by
  induction es with
  | nil => simp [occurrencesUnderAll]
  | cons e es ih => simp [occurrencesUnderAll, ih]

/-- Whatever stands in an expression stands under all that the expression stands under. -/
theorem suffix_above {above : List Expr} {e : Expr} {o : Occurrence}
    (h : o ∈ e.occurrencesUnder above) : above <:+ o.above := by
  induction e using children_induction generalizing above with
  | node e ih =>
      rw [occurrencesUnder_eq] at h
      rcases List.mem_cons.mp h with rfl | h
      · exact List.suffix_refl above
      · obtain ⟨c, hc, ho⟩ := mem_occurrencesUnderAll.mp h
        exact (List.suffix_cons e above).trans (ih c hc ho)

/-! An occurrence below the root stands right under the occurrence of its parent, and every child of
an occurring node occurs right under it. -/

theorem parent_of_mem_occurrencesUnder {above : List Expr} {e : Expr} {o : Occurrence}
    (h : o ∈ e.occurrencesUnder above) :
    o = ⟨above, e⟩ ∨ ∃ parent rest, o.above = parent :: rest ∧ o.node ∈ parent.children ∧
      ⟨rest, parent⟩ ∈ e.occurrencesUnder above := by
  induction e using children_induction generalizing above with
  | node e ih =>
      rw [occurrencesUnder_eq] at h ⊢
      rcases List.mem_cons.mp h with rfl | h
      · exact .inl rfl
      · obtain ⟨c, hc, ho⟩ := mem_occurrencesUnderAll.mp h
        right
        rcases ih c hc ho with rfl | ⟨parent, rest, habove, hnode, hparent⟩
        · exact ⟨e, above, rfl, hc, List.mem_cons_self ..⟩
        · exact ⟨parent, rest, habove, hnode,
            List.mem_cons_of_mem _ (mem_occurrencesUnderAll.mpr ⟨c, hc, hparent⟩)⟩

theorem child_mem_occurrencesUnder {above rest : List Expr} {e parent c : Expr}
    (h : ⟨rest, parent⟩ ∈ e.occurrencesUnder above) (hc : c ∈ parent.children) :
    ⟨parent :: rest, c⟩ ∈ e.occurrencesUnder above := by
  induction e using children_induction generalizing above with
  | node e ih =>
      rw [occurrencesUnder_eq] at h ⊢
      refine List.mem_cons_of_mem _ (mem_occurrencesUnderAll.mpr ?_)
      rcases List.mem_cons.mp h with heq | h
      · cases heq
        exact ⟨c, hc, occurrencesUnder_eq (parent :: rest) c ▸ List.mem_cons_self ..⟩
      · obtain ⟨d, hd, h⟩ := mem_occurrencesUnderAll.mp h
        exact ⟨d, hd, ih d hd h⟩

theorem mem_occurrences_cons_iff {e parent n : Expr} {rest : List Expr} :
    ⟨parent :: rest, n⟩ ∈ e.occurrences ↔ ⟨rest, parent⟩ ∈ e.occurrences ∧ n ∈ parent.children := by
  refine ⟨?_, fun h => child_mem_occurrencesUnder h.1 h.2⟩
  intro h
  rcases parent_of_mem_occurrencesUnder h with heq | ⟨parent', rest', habove, hnode, hparent⟩
  · cases heq
  · cases habove
    exact ⟨hparent, hnode⟩

theorem mem_occurrences_nil_iff {e n : Expr} : ⟨[], n⟩ ∈ e.occurrences ↔ n = e := by
  refine ⟨?_, ?_⟩
  · intro h
    rcases parent_of_mem_occurrencesUnder h with heq | ⟨parent, rest, habove, -, -⟩
    · cases heq
      rfl
    · cases habove
  · rintro rfl
    rw [occurrences, occurrencesUnder_eq]
    exact List.mem_cons_self ..

end Expr

/-! ### What a policy reaches -/

/-- Whether a check gets to the occurrence: wherever it stands, or only if nothing but constructor
calls stands above it. -/
def Policy.reaches : Policy → Expr.Occurrence → Bool
  | .uniform, _ => true
  | .constructorArgsOnly, o => o.above.all Expr.isNew

/-- The occurrences that a check visits, in the order of visiting. -/
def Expr.visited (p : Policy) (e : Expr) : List Expr.Occurrence :=
  e.occurrences.filter p.reaches

namespace Policy

variable {p : Policy}

theorem reaches_eq (p : Policy) (o : Expr.Occurrence) : p.reaches o = o.above.all p.descends := by
  cases p with
  | uniform => simp [reaches, descends]
  | constructorArgsOnly => rfl

theorem filter_reaches_eq_nil {e : Expr} {above : List Expr} {es : List Expr}
    (h : p.descends e = false) :
    (Expr.occurrencesUnderAll (e :: above) es).filter p.reaches = [] := by
  rw [List.filter_eq_nil_iff]
  intro o ho
  obtain ⟨c, -, ho⟩ := Expr.mem_occurrencesUnderAll.mp ho
  -- The node that blocks the policy stands above everything below it.
  have he : e ∈ o.above := (Expr.suffix_above ho).subset (List.mem_cons_self ..)
  rw [reaches_eq, List.all_eq_true]
  intro hall
  rw [hall e he] at h
  cases h

end Policy

/-! ### The check as a walk along a list -/

theorem Report.violation?_andThen (r : Report) (next : Unit → Report) :
    (r.andThen next).violation? = r.violation?.or (next ()).violation? := by
  cases h : r.violation? <;> simp [andThen, h]

namespace Check

/-- The check of nodes by themselves, one after the other, up to the first violation. -/
def inOrder (t : ClassTable) : List Expr.Occurrence → Report
  | [] => .done
  | o :: os => (node t o.node).andThen fun _ => inOrder t os

theorem inOrder_append (t : ClassTable) (os os' : List Expr.Occurrence) :
    inOrder t (os ++ os') = (inOrder t os).andThen fun _ => inOrder t os' := by
  induction os with
  | nil => rw [inOrder, Report.done_andThen, List.nil_append]
  | cons o os ih => rw [List.cons_append, inOrder, ih, inOrder, Report.andThen_assoc]

theorem visitAll_eq_inOrder {t : ClassTable} {p : Policy} {above es : List Expr}
    (h : ∀ e ∈ es, visit t p e = inOrder t ((e.occurrencesUnder above).filter p.reaches)) :
    visitAll t p es = inOrder t ((Expr.occurrencesUnderAll above es).filter p.reaches) := by
  induction es with
  | nil => rw [visitAll, Expr.occurrencesUnderAll, List.filter_nil, inOrder]
  | cons e es ih =>
      rw [visitAll, Expr.occurrencesUnderAll, List.filter_append, inOrder_append,
        h e (List.mem_cons_self ..), ih fun c hc => h c (List.mem_cons_of_mem _ hc)]

/-- The check of an expression that a policy reaches runs along the nodes that it reaches. -/
theorem visit_eq_inOrder_of_reached (t : ClassTable) {p : Policy} (e : Expr) {above : List Expr}
    (h : above.all p.descends = true) :
    visit t p e = inOrder t ((e.occurrencesUnder above).filter p.reaches) := by
  induction e using Expr.children_induction generalizing above with
  | node e ih =>
      have hself : p.reaches ⟨above, e⟩ = true := by rw [Policy.reaches_eq, h]
      rw [visit_eq, Expr.occurrencesUnder_eq, List.filter_cons_of_pos hself, inOrder]
      congr 1
      funext _
      -- Either both sides go on with the children, or there is nothing left on both.
      by_cases hd : p.descends e = true
      · rw [if_pos hd]
        refine visitAll_eq_inOrder fun c hc => ih c hc ?_
        rw [List.all_cons, hd, h, Bool.and_true]
      · rw [if_neg hd, Policy.filter_reaches_eq_nil (by simpa using hd), inOrder]

/-- **The check of an expression is the check of the nodes its policy visits, in order.** -/
theorem visit_eq_inOrder (t : ClassTable) (p : Policy) (e : Expr) :
    visit t p e = inOrder t (e.visited p) :=
  visit_eq_inOrder_of_reached t e (by simp)

theorem violation?_inOrder (t : ClassTable) (os : List Expr.Occurrence) :
    (inOrder t os).violation? = os.findSome? (·.node.violation? t) := by
  induction os with
  | nil => rfl
  | cons o os ih =>
      rw [inOrder, List.findSome?_cons, Report.andThen]
      cases h : o.node.violation? t with
      | none => simp [node, h, ih]
      | some err => simp [node, h]

end Check

/-- A check reports the first violation among the nodes it visits. -/
theorem violation?_check_eq (t : ClassTable) (p : Policy) (e : Expr) :
    (check t p e).violation? = (e.visited p).findSome? (·.node.violation? t) := by
  rw [violation?_check, Check.visit_eq_inOrder, Check.violation?_inOrder]

end JavaChecker
