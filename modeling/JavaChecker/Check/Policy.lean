import JavaChecker.Expr.Basic

/-!
# JavaChecker.Check.Policy

Which subexpressions a check enters once a node itself is in order.
-/

namespace JavaChecker

/-- How a check descends. -/
inductive Policy where
  /-- Into every child of every node. -/
  | uniform
  /-- Only into the arguments of constructor calls. Other children are consulted for their static
  types and left alone. -/
  | constructorArgsOnly
deriving DecidableEq, Inhabited

namespace Policy

/-- The word for a policy. -/
def word : Policy → String
  | .uniform => "uniform"
  | .constructorArgsOnly => "constructor-args-only"

/-- Whether a check enters the children of the node. -/
def descends : Policy → Expr → Bool
  | .uniform, _ => true
  | .constructorArgsOnly, e => e.isNew

end Policy

/-- The options of a check. -/
structure CheckOptions where
  recursion : Policy := .uniform
deriving DecidableEq, Inhabited

end JavaChecker
