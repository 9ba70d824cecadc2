import JavaChecker.Check.Policy
import JavaChecker.Check.Rule
import JavaChecker.Expr.Render
import JavaChecker.Log.Event

/-!
# JavaChecker.Check.Run

The checker. Nodes are visited before their children and children from left to right, and the
first violation ends the check.

A check reports its outcome together with what it logs: a trace event for every visited node, a
second one for a call that cannot be verified, and at the end one event for a rejected
expression.
-/

namespace JavaChecker

open Log (Event)

/-- What a check, or a part of one, has logged, and the violation that ended it. -/
structure Report where
  events : List Event := []
  violation? : Option TypeError := none
deriving DecidableEq, Inhabited

namespace Report

/-- Nothing was done and nothing is wrong. -/
def done : Report := {}

/-- Go on with another part, unless this one ended the check. -/
def andThen (r : Report) (next : Unit → Report) : Report :=
  match r.violation? with
  | some _ => r
  | none =>
    let s := next ()
    { events := r.events ++ s.events, violation? := s.violation? }

/-- Whether nothing is wrong. -/
def accepted (r : Report) : Bool := r.violation?.isNone

@[simp] theorem done_andThen (next : Unit → Report) : done.andThen next = next () := by
  simp [andThen, done]

@[simp] theorem andThen_done (r : Report) : (r.andThen fun _ => done) = r := by
  cases r with
  | mk events violation? => cases violation? <;> simp [andThen, done]

theorem andThen_assoc (r : Report) (f g : Unit → Report) :
    (r.andThen f).andThen g = r.andThen fun _ => (f ()).andThen g := by
  cases r with
  | mk events violation? =>
    cases violation? with
    | some e => simp [andThen]
    | none => cases h : (f ()).violation? <;> simp [andThen, h, List.append_assoc]

end Report

namespace Check

/-- The target under which the checker logs. -/
def target : String := "jtc_check"

/-- A node is being visited. -/
def visiting (t : ClassTable) (e : Expr) : Event where
  level := .trace
  target := target
  message := "checking"
  fields := [⟨"expr", .shown (e.render t)⟩]

/-- A call was passed over because the type of its receiver is not known. -/
def unverified (method : String) : Event where
  level := .trace
  target := target
  message := "receiver has no static type; call not verified"
  fields := [⟨"method", .quoted method⟩]

/-- An expression was rejected. -/
def rejected (t : ClassTable) (e : Expr) (err : TypeError) : Event where
  level := .debug
  target := target
  message := "expression rejected: " ++ err.message
  fields := [⟨"code", .quoted err.code⟩, ⟨"expr", .shown (e.render t)⟩]

/-- The events of visiting a node, whatever comes of it. -/
def nodeEvents (t : ClassTable) (e : Expr) : List Event :=
  match e with
  | .call receiver method _ =>
    match receiver.staticType? with
    | none => [visiting t e, unverified method]
    | some _ => [visiting t e]
  | _ => [visiting t e]

/-- The check of a node by itself. -/
def node (t : ClassTable) (e : Expr) : Report where
  events := nodeEvents t e
  violation? := e.violation? t

mutual

/-- The check of a node and of what the policy enters below it. -/
def visit (t : ClassTable) (p : Policy) : Expr → Report
  | .var name ty => node t (.var name ty)
  | .lit text ty => node t (.lit text ty)
  | .null => node t .null
  | .assign name ty rhs =>
    (node t (.assign name ty rhs)).andThen fun _ =>
      if p.descends (.assign name ty rhs) then visit t p rhs else .done
  | .call receiver method args =>
    (node t (.call receiver method args)).andThen fun _ =>
      if p.descends (.call receiver method args) then
        (visit t p receiver).andThen fun _ => visitAll t p args
      else .done
  | .new ty args =>
    (node t (.new ty args)).andThen fun _ =>
      if p.descends (.new ty args) then visitAll t p args else .done

/-- The check of several expressions, one after the other. -/
def visitAll (t : ClassTable) (p : Policy) : List Expr → Report
  | [] => .done
  | e :: es => (visit t p e).andThen fun _ => visitAll t p es

end

/-- The check of a node, then of its children as far as the policy enters them. -/
theorem visit_eq (t : ClassTable) (p : Policy) (e : Expr) :
    visit t p e = (node t e).andThen fun _ =>
      if p.descends e then visitAll t p e.children else .done := by
  cases e with
  | var | lit | null => simp [visit, Expr.children, visitAll]
  | assign => simp [visit, Expr.children, visitAll]
  | call => simp [visit, Expr.children, visitAll]
  | new => simp [visit, Expr.children]

end Check

/-- Check an expression against a table under a policy. -/
def check (t : ClassTable) (p : Policy) (e : Expr) : Report :=
  let r := Check.visit t p e
  match r.violation? with
  | none => r
  | some err => { r with events := r.events ++ [Check.rejected t e err] }

/-- A rejection adds an event and changes nothing else. -/
@[simp] theorem violation?_check (t : ClassTable) (p : Policy) (e : Expr) :
    (check t p e).violation? = (Check.visit t p e).violation? := by
  simp only [check]
  split <;> simp_all

end JavaChecker
