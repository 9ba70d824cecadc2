import JavaChecker.Proofs.Typing

/-!
# JavaChecker.Proofs.CheckLog

What a check logs, as an account of its run.

A check is the check of the visited nodes one after the other (`Check.visit_eq_inOrder`), and each
of these adds its own events. So the log of a check that finds nothing wrong is the log of all
visited nodes, and that of any other check goes on up to the node that is not locally typed. The
event of the rejection comes after all of them, once, and shows the whole expression: the nodes in
between, which the error passes on its way out, add nothing.
-/

namespace JavaChecker

open Log (Event)

variable {t : ClassTable}

namespace Check

/-- The events of nodes that are visited one after the other. -/
def eventsOf (t : ClassTable) (os : List Expr.Occurrence) : List Event :=
  os.flatMap fun o => nodeEvents t o.node

theorem inOrder_of_locallyTyped {os : List Expr.Occurrence}
    (h : ∀ o ∈ os, o.node.LocallyTyped t) :
    inOrder t os = { events := eventsOf t os, violation? := none } := by
  induction os with
  | nil => rfl
  | cons o os ih =>
      obtain ⟨ho, hos⟩ := List.forall_mem_cons.mp h
      have hnode : (node t o.node).violation? = none := ho.violation?_eq_none
      rw [inOrder, Report.andThen, hnode, ih hos]
      simp [eventsOf, node]

theorem inOrder_of_breaks {before after : List Expr.Occurrence} {o : Expr.Occurrence}
    {err : TypeError} (hbefore : ∀ b ∈ before, b.node.LocallyTyped t) (ho : o.node.Breaks t err) :
    inOrder t (before ++ o :: after) =
      { events := eventsOf t (before ++ [o]), violation? := some err } := by
  have hnode : (node t o.node).violation? = some err := ho.violation?_eq_some
  have hstop : inOrder t (o :: after) = node t o.node := by
    rw [inOrder, Report.andThen, hnode]
  rw [inOrder_append, inOrder_of_locallyTyped hbefore, hstop]
  simp [Report.andThen, eventsOf, node, ho.violation?_eq_some]

/-- Nodes are all locally typed, or there is a first one that is not. -/
theorem locallyTyped_or_first_breaks (t : ClassTable) (os : List Expr.Occurrence) :
    (∀ o ∈ os, o.node.LocallyTyped t) ∨
      ∃ before o after err, os = before ++ o :: after ∧
        (∀ b ∈ before, b.node.LocallyTyped t) ∧ o.node.Breaks t err := by
  induction os with
  | nil => exact .inl (List.forall_mem_nil _)
  | cons o os ih =>
      rcases Expr.locallyTyped_or_breaks t o.node with ho | ⟨err, ho⟩
      · rcases ih with hos | ⟨before, o', after, err, rfl, hbefore, ho'⟩
        · exact .inl (List.forall_mem_cons.mpr ⟨ho, hos⟩)
        · exact .inr ⟨o :: before, o', after, err, rfl,
            List.forall_mem_cons.mpr ⟨ho, hbefore⟩, ho'⟩
      · exact .inr ⟨[], o, os, err, rfl, List.forall_mem_nil _, ho⟩

end Check

/-- A check logs the nodes it visits, in their order, up to and including the first that is not
locally typed, and then the rejection, if there is one. Each node is logged with one event, and with
a second one if it is a call on a receiver whose type is not known. -/
theorem check_logs_visits_then_rejection (t : ClassTable) (p : Policy) (e : Expr) :
    (∀ n, (∀ receiver method args, n = .call receiver method args → receiver.staticType? ≠ none) →
      Check.nodeEvents t n =
        [{ level := .trace, target := "jtc_check", message := "checking",
           fields := [⟨"expr", .shown (n.render t)⟩] }]) ∧
    (∀ receiver method args, receiver.staticType? = none →
      Check.nodeEvents t (.call receiver method args) =
        [{ level := .trace, target := "jtc_check", message := "checking",
           fields := [⟨"expr", .shown ((Expr.call receiver method args).render t)⟩] },
         { level := .trace, target := "jtc_check",
           message := "receiver has no static type; call not verified",
           fields := [⟨"method", .quoted method⟩] }]) ∧
    (((∀ o ∈ e.visited p, o.node.LocallyTyped t) ∧
        check t p e =
          { events := Check.eventsOf t (e.visited p)
            violation? := none }) ∨
      ∃ before o after err, e.visited p = before ++ o :: after ∧
        (∀ b ∈ before, b.node.LocallyTyped t) ∧ ¬ o.node.LocallyTyped t ∧ o.node.Breaks t err ∧
        check t p e =
          { events := Check.eventsOf t (before ++ [o]) ++
              [{ level := .debug, target := "jtc_check"
                 message := "expression rejected: " ++ err.message
                 fields := [⟨"code", .quoted err.code⟩, ⟨"expr", .shown (e.render t)⟩] }]
            violation? := some err }) := by
  refine ⟨?_, ?_, ?_⟩
  · intro n hn
    cases n with
    | var | lit | null | assign | new => rfl
    | call receiver method args =>
        obtain ⟨ty, hty⟩ := Option.ne_none_iff_exists'.mp (hn receiver method args rfl)
        simp [Check.nodeEvents, hty, Check.visiting, Check.target]
  · intro receiver method args hreceiver
    simp [Check.nodeEvents, hreceiver, Check.visiting, Check.unverified, Check.target]
  · rcases Check.locallyTyped_or_first_breaks t (e.visited p) with
      htyped | ⟨before, o, after, err, hvisited, hbefore, ho⟩
    · left
      refine ⟨htyped, ?_⟩
      rw [check, Check.visit_eq_inOrder, Check.inOrder_of_locallyTyped htyped]
    · right
      refine ⟨before, o, after, err, hvisited, hbefore, ho.not_locallyTyped, ho, ?_⟩
      rw [check, Check.visit_eq_inOrder, hvisited, Check.inOrder_of_breaks hbefore ho]
      rfl

/-- A call on the result of a call. -/
def chainedCall : Expr := .call (.call (.var "s" (.ofClass ⟨1⟩)) "length" []) "abs" []

/-- The narrower check of a chained call logs that it came by and did not verify the call. -/
theorem check_logs_chained_call_unverified :
    Check.nodeEvents .initial .null =
      [{ level := .trace, target := "jtc_check", message := "checking",
         fields := [⟨"expr", .shown "null"⟩] }] ∧
    check .initial .constructorArgsOnly chainedCall =
      { events :=
          [{ level := .trace, target := "jtc_check", message := "checking",
             fields := [⟨"expr", .shown "s.length().abs()"⟩] },
           { level := .trace, target := "jtc_check",
             message := "receiver has no static type; call not verified",
             fields := [⟨"method", .quoted "abs"⟩] }]
        violation? := none } := by
  obtain ⟨hplain, hunverified, hrun⟩ :=
    check_logs_visits_then_rejection .initial .constructorArgsOnly chainedCall
  refine ⟨hplain .null (by intro receiver method args h; cases h), ?_⟩
  rcases hrun with ⟨-, hcheck⟩ | ⟨before, o, after, err, -, -, -, -, hcheck⟩
  · rw [hcheck]
    have hvisited : Check.eventsOf .initial (chainedCall.visited .constructorArgsOnly) =
        Check.nodeEvents .initial chainedCall := by decide
    rw [hvisited]
    exact congrArg (Report.mk · none) (hunverified _ _ _ rfl)
  · have hnone : (check .initial .constructorArgsOnly chainedCall).violation? = none := by decide
    rw [hcheck] at hnone
    cases hnone

end JavaChecker
