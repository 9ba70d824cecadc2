import JavaChecker.Proofs.Typing
import Mathlib.Data.List.Basic

/-!
# JavaChecker.Proofs.Policies

The two policies against each other.

Both checks run along the same pre-order list of nodes, and the narrower policy only leaves nodes
out. What a check says is therefore read off this one list: `RejectsAt` names the position at which
it ends, and the same position can be looked up under the other policy. A node that only the uniform
check visits stands below an assignment or a method call, since a node with children is one of these
or a constructor call.
-/

namespace JavaChecker

namespace Expr

/-! ### Shapes of nodes -/

/-- Whether the expression is a variable, a literal or `null`. -/
def isLeaf : Expr → Bool
  | .var .. | .lit .. | .null => true
  | .assign .. | .call .. | .new .. => false

/-- Whether the expression is an assignment or a method call. -/
def isAssignOrCall : Expr → Bool
  | .assign .. | .call .. => true
  | .var .. | .lit .. | .null | .new .. => false

theorem isAssignOrCall_of_child {e c : Expr} (hc : c ∈ e.children) (hnew : ¬ e.isNew = true) :
    e.isAssignOrCall = true := by
  cases e with
  | var | lit | null => cases hc
  | assign | call => rfl
  | new => exact absurd rfl hnew

theorem violation?_of_isLeaf (t : ClassTable) {e : Expr} (h : e.isLeaf = true) :
    e.violation? t = none := by
  cases e with
  | var | lit | null => rfl
  | assign | call | new => cases h

/-- Whatever stands above an occurrence has a child. -/
theorem exists_child_of_mem_above {e a : Expr} {o : Occurrence} (ho : o ∈ e.occurrences)
    (ha : a ∈ o.above) : ∃ c, c ∈ a.children := by
  obtain ⟨above, n⟩ := o
  induction above generalizing n with
  | nil => cases ha
  | cons parent rest ih =>
      obtain ⟨hparent, hn⟩ := mem_occurrences_cons_iff.mp ho
      rcases List.mem_cons.mp ha with rfl | ha
      · exact ⟨n, hn⟩
      · exact ih parent hparent ha

end Expr

/-! ### What only the uniform check visits -/

theorem Policy.reaches_uniform (o : Expr.Occurrence) : Policy.uniform.reaches o = true := rfl

namespace Expr

theorem exists_assignOrCall_above {e : Expr} {o : Occurrence} (ho : o ∈ e.occurrences)
    (hreach : ¬ Policy.constructorArgsOnly.reaches o = true) :
    ∃ a ∈ o.above, a.isAssignOrCall = true := by
  obtain ⟨a, ha, hnew⟩ : ∃ a ∈ o.above, ¬ a.isNew = true := by
    simpa [Policy.reaches] using hreach
  obtain ⟨c, hc⟩ := exists_child_of_mem_above ho ha
  exact ⟨a, ha, isAssignOrCall_of_child hc hnew⟩

/-- Where assignments and method calls have nothing but leaves for children, only leaves are left
out. -/
theorem isLeaf_of_not_reached {e : Expr}
    (hflat : ∀ o ∈ e.occurrences, o.node.isAssignOrCall = true →
      ∀ c ∈ o.node.children, c.isLeaf = true)
    {o : Occurrence} (ho : o ∈ e.occurrences)
    (hreach : ¬ Policy.constructorArgsOnly.reaches o = true) : o.node.isLeaf = true := by
  obtain ⟨above, n⟩ := o
  induction above generalizing n with
  | nil => exact absurd rfl hreach
  | cons parent rest ih =>
      obtain ⟨hparent, hn⟩ := mem_occurrences_cons_iff.mp ho
      by_cases hnew : parent.isNew = true
      · -- The parent is left out itself, so it is a leaf, and a leaf has no children.
        have hrest : ¬ Policy.constructorArgsOnly.reaches ⟨rest, parent⟩ = true := by
          simpa [Policy.reaches, hnew] using hreach
        have hleaf : parent.isLeaf = true := ih parent hparent hrest
        cases parent with
        | var | lit | null => cases hn
        | assign | call | new => cases hleaf
      · exact hflat ⟨rest, parent⟩ hparent (isAssignOrCall_of_child hn hnew) n hn

end Expr

/-! ### Where a check ends -/

variable {t : ClassTable} {p : Policy} {e : Expr}

/-- The check ends at a position of the pre-order, with an error: there is the first node which the
policy reaches and which is not locally typed, and the error is that of the first rule it breaks. -/
structure RejectsAt (t : ClassTable) (p : Policy) (e : Expr) (i : Nat) (o : Expr.Occurrence)
    (err : TypeError) : Prop where
  occurs : e.occurrences[i]? = some o
  reached : p.reaches o = true
  breaks : o.node.Breaks t err
  first : ∀ j < i, ∀ b, e.occurrences[j]? = some b → p.reaches b = true → b.node.LocallyTyped t

theorem violation?_check_eq_findSome? (t : ClassTable) (p : Policy) (e : Expr) :
    (check t p e).violation? =
      e.occurrences.findSome? fun o => if p.reaches o then o.node.violation? t else none := by
  rw [violation?_check_eq, Expr.visited, ← List.head?_filterMap, List.filterMap_filter,
    List.head?_filterMap]

theorem violation?_check_eq_some_iff_rejectsAt {err : TypeError} :
    (check t p e).violation? = some err ↔ ∃ i o, RejectsAt t p e i o err := by
  rw [violation?_check_eq_findSome?, List.findSome?_eq_some_iff]
  refine ⟨?_, ?_⟩
  · rintro ⟨before, o, after, hsplit, hviolation, hbefore⟩
    have hreached : p.reaches o = true := by
      by_contra hreached
      rw [if_neg hreached] at hviolation
      cases hviolation
    rw [if_pos hreached, Expr.violation?_eq_some_iff] at hviolation
    refine ⟨before.length, o, by simp [hsplit], hreached, hviolation, ?_⟩
    intro j hj b hb hb'
    rw [hsplit, List.getElem?_append_left hj] at hb
    have hnone := hbefore b (List.mem_of_getElem? hb)
    rwa [if_pos hb', Expr.violation?_eq_none_iff] at hnone
  · rintro ⟨i, o, h⟩
    obtain ⟨hi, ho⟩ := List.getElem?_eq_some_iff.mp h.occurs
    refine ⟨e.occurrences.take i, o, e.occurrences.drop (i + 1), ?_, ?_, ?_⟩
    · rw [← ho, List.getElem_cons_drop, List.take_append_drop]
    · rw [if_pos h.reached, h.breaks.violation?_eq_some]
    · intro b hb
      obtain ⟨j, hj⟩ := List.mem_iff_getElem?.mp hb
      have hlt : j < i := by
        obtain ⟨hj, -⟩ := List.getElem?_eq_some_iff.mp hj
        rw [List.length_take] at hj
        omega
      rw [List.getElem?_take_of_lt hlt] at hj
      by_cases hreached : p.reaches b = true
      · rw [if_pos hreached, Expr.violation?_eq_none_iff]
        exact h.first j hlt b hj hreached
      · rw [if_neg hreached]

/-- The uniform policy reaches every node, so its check ends no later than any other. -/
theorem RejectsAt.exists_uniform {i : Nat} {o : Expr.Occurrence} {err : TypeError}
    (h : RejectsAt t p e i o err) :
    ∃ j o' err', j ≤ i ∧ RejectsAt t .uniform e j o' err' := by
  have hrejected : (check t .uniform e).violation? ≠ none := by
    intro hnone
    rw [violation?_check_eq_findSome?, List.findSome?_eq_none_iff] at hnone
    have hviolation := hnone o (List.mem_of_getElem? h.occurs)
    rw [if_pos (Policy.reaches_uniform o), h.breaks.violation?_eq_some] at hviolation
    cases hviolation
  obtain ⟨err', herr'⟩ := Option.ne_none_iff_exists'.mp hrejected
  obtain ⟨j, o', h'⟩ := violation?_check_eq_some_iff_rejectsAt.mp herr'
  refine ⟨j, o', err', ?_, h'⟩
  by_contra hlt
  exact h.breaks.not_locallyTyped (h'.first i (by omega) o h.occurs rfl)

/-- Where the narrower policy rejects, the uniform one rejects likewise, unless it has come across
something wrong before, below an assignment or a method call. -/
theorem RejectsAt.uniform_or_earlier {i : Nat} {o : Expr.Occurrence} {err : TypeError}
    (h : RejectsAt t .constructorArgsOnly e i o err) :
    RejectsAt t .uniform e i o err ∨
      ∃ j o' err', j < i ∧ RejectsAt t .uniform e j o' err' ∧
        ∃ a ∈ o'.above, a.isAssignOrCall = true := by
  obtain ⟨j, o', err', hle, h'⟩ := h.exists_uniform
  rcases Nat.lt_or_eq_of_le hle with hlt | rfl
  · right
    refine ⟨j, o', err', hlt, h', ?_⟩
    refine Expr.exists_assignOrCall_above (List.mem_of_getElem? h'.occurs) ?_
    -- Had the narrower policy come by, it would have ended there.
    intro hreached
    exact h'.breaks.not_locallyTyped (h.first j hlt o' h'.occurs hreached)
  · left
    exact ⟨h.occurs, rfl, h.breaks, h'.first⟩

/-- The uniform check is the stricter of the two. It accepts nothing that the narrower one rejects.
Where the narrower one rejects a node, it rejects that node with the same error, or another one that
comes before it and stands below an assignment or a method call. And where assignments and method
calls have only leaves for children, both checks say the same. -/
theorem uniform_refines_constructorArgsOnly (t : ClassTable) (e : Expr) :
    (∀ p err, (check t p e).violation? = some err ↔ ∃ i o, RejectsAt t p e i o err) ∧
    ((check t .uniform e).accepted = true → (check t .constructorArgsOnly e).accepted = true) ∧
    (∀ i o err, RejectsAt t .constructorArgsOnly e i o err →
      RejectsAt t .uniform e i o err ∨
        ∃ j o' err', j < i ∧ RejectsAt t .uniform e j o' err' ∧
          ∃ a ∈ o'.above, a.isAssignOrCall = true) ∧
    ((∀ o ∈ e.occurrences, o.node.isAssignOrCall = true →
        ∀ c ∈ o.node.children, c.isLeaf = true) →
      (check t .uniform e).violation? = (check t .constructorArgsOnly e).violation?) := by
  refine ⟨fun p err => violation?_check_eq_some_iff_rejectsAt, ?_,
    fun i o err => RejectsAt.uniform_or_earlier, ?_⟩
  · intro h
    rw [accepted_check_iff] at h ⊢
    intro o ho
    exact h o (List.mem_filter.mpr ⟨(List.mem_filter.mp ho).1, Policy.reaches_uniform o⟩)
  · intro hflat
    rw [violation?_check_eq_findSome?, violation?_check_eq_findSome?, ← List.head?_filterMap,
      ← List.head?_filterMap]
    congr 1
    refine List.filterMap_congr fun o ho => ?_
    rw [if_pos (Policy.reaches_uniform o)]
    by_cases hreached : Policy.constructorArgsOnly.reaches o = true
    · rw [if_pos hreached]
    · rw [if_neg hreached]
      exact Expr.violation?_of_isLeaf t (Expr.isLeaf_of_not_reached hflat ho hreached)

/-- The initial table with a class that is made from two objects. -/
def withPair : ClassTable :=
  ClassTable.initial.apply (.add
    { name := "Pair", kind := .concrete,
      constructor? := some { params := [.ofClass ⟨0⟩, .ofClass ⟨0⟩] } })

/-- A pair of two things that cannot be made, the first of them the value of an assignment. -/
def wrongPair : Expr :=
  .new (.ofClass ⟨2⟩)
    [.assign "x" (.ofClass ⟨0⟩) (.new (.ofClass ⟨0⟩) [.null]),
     .new (.ofClass ⟨0⟩) [.null, .null]]

/-- A pair in which a variable is assigned to another. -/
def flatPair : Expr :=
  .new (.ofClass ⟨2⟩)
    [.assign "x" (.ofClass ⟨0⟩) (.var "y" (.ofClass ⟨0⟩)), .var "z" (.ofClass ⟨0⟩)]

/-- Of the two things that cannot be made the narrower check finds the second and the uniform one
the first, below the assignment. Both accept the other pair. -/
theorem uniform_rejects_wrongPair_earlier :
    (∃ i j o o',
      RejectsAt withPair .constructorArgsOnly wrongPair i o
        (.argumentCount (.constructor "Object") 0 2) ∧
      RejectsAt withPair .uniform wrongPair j o' (.argumentCount (.constructor "Object") 0 1) ∧
      j < i ∧ ∃ a ∈ o'.above, a.isAssignOrCall = true) ∧
    (check withPair .uniform flatPair).accepted = true ∧
    (check withPair .constructorArgsOnly flatPair).accepted = true ∧
    (check withPair .uniform flatPair).violation? =
      (check withPair .constructorArgsOnly flatPair).violation? := by
  have huniform : (check withPair .uniform wrongPair).violation? =
      some (.argumentCount (.constructor "Object") 0 1) := by decide
  have hnarrow : (check withPair .constructorArgsOnly wrongPair).violation? =
      some (.argumentCount (.constructor "Object") 0 2) := by decide
  obtain ⟨hrejects, -, hearlier, -⟩ := uniform_refines_constructorArgsOnly withPair wrongPair
  obtain ⟨-, haccepted, -, hsame⟩ := uniform_refines_constructorArgsOnly withPair flatPair
  refine ⟨?_, by decide, haccepted (by decide), hsame (by decide)⟩
  obtain ⟨i, o, hat⟩ := (hrejects _ _).mp hnarrow
  rcases hearlier i o _ hat with hat' | ⟨j, o', err, hlt, hat', habove⟩
  · -- The uniform check has another complaint.
    have hviolation := (hrejects _ _).mpr ⟨i, o, hat'⟩
    rw [huniform] at hviolation
    exact absurd hviolation (by decide)
  · obtain rfl : TypeError.argumentCount (.constructor "Object") 0 1 = err :=
      Option.some.inj (huniform.symm.trans ((hrejects _ _).mpr ⟨j, o', hat'⟩))
    exact ⟨i, j, o, o', hat, hat', hlt, habove⟩

end JavaChecker
