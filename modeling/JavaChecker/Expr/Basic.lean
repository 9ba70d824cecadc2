import JavaChecker.Ty

/-!
# JavaChecker.Expr.Basic

Expressions of the checked language. Whoever builds them has resolved the declared types of the
variables already; classes are named by identifier.

Every expression but a method call has a static type, and it can be read off the node: no child
takes part in it. The static type of a method call is not determined, so a call on the result of
a call is never checked against its receiver.
-/

namespace JavaChecker

/-- An expression. -/
inductive Expr where
  /-- A variable and its declared type. -/
  | var (name : String) (ty : Ty)
  /-- A literal as spelled in the source, and its type. -/
  | lit (text : String) (ty : Ty)
  /-- The `null` literal. -/
  | null
  /-- An assignment to a variable of the given declared type. -/
  | assign (name : String) (ty : Ty) (rhs : Expr)
  /-- A method call. -/
  | call (receiver : Expr) (method : String) (args : List Expr)
  /-- A constructor call. -/
  | new (ty : Ty) (args : List Expr)
deriving Inhabited

namespace Expr

/-- The static type, where there is one. -/
def staticType? : Expr → Option Ty
  | .var _ ty | .lit _ ty | .assign _ ty _ | .new ty _ => some ty
  | .null => some .null
  | .call .. => none

/-- The direct subexpressions, left to right; a receiver comes before the arguments. -/
def children : Expr → List Expr
  | .var .. | .lit .. | .null => []
  | .assign _ _ rhs => [rhs]
  | .call receiver _ args => receiver :: args
  | .new _ args => args

/-- Whether the expression is a constructor call. -/
def isNew : Expr → Bool
  | .new .. => true
  | _ => false

/-! ## Equality -/

mutual

/-- Structural equality of expressions, decided. -/
def decEq (a b : Expr) : Decidable (a = b) :=
  match a, b with
  | .var x t, .var y u => decidable_of_decidable_of_iff (p := x = y ∧ t = u) (by simp)
  | .lit x t, .lit y u => decidable_of_decidable_of_iff (p := x = y ∧ t = u) (by simp)
  | .null, .null => isTrue rfl
  | .assign x t r, .assign y u s =>
    have := decEq r s
    decidable_of_decidable_of_iff (p := x = y ∧ t = u ∧ r = s) (by simp)
  | .call r m xs, .call s n ys =>
    have := decEq r s
    have := decEqAll xs ys
    decidable_of_decidable_of_iff (p := r = s ∧ m = n ∧ xs = ys) (by simp)
  | .new t xs, .new u ys =>
    have := decEqAll xs ys
    decidable_of_decidable_of_iff (p := t = u ∧ xs = ys) (by simp)
  | .var .., .lit .. | .var .., .null | .var .., .assign .. | .var .., .call .. | .var .., .new ..
  | .lit .., .var .. | .lit .., .null | .lit .., .assign .. | .lit .., .call .. | .lit .., .new ..
  | .null, .var .. | .null, .lit .. | .null, .assign .. | .null, .call .. | .null, .new ..
  | .assign .., .var .. | .assign .., .lit .. | .assign .., .null | .assign .., .call ..
  | .assign .., .new ..
  | .call .., .var .. | .call .., .lit .. | .call .., .null | .call .., .assign ..
  | .call .., .new ..
  | .new .., .var .. | .new .., .lit .. | .new .., .null | .new .., .assign ..
  | .new .., .call .. => isFalse (by intro h; cases h)

/-- Equality of lists of expressions, decided. -/
def decEqAll (xs ys : List Expr) : Decidable (xs = ys) :=
  match xs, ys with
  | [], [] => isTrue rfl
  | x :: xs, y :: ys =>
    have := decEq x y
    have := decEqAll xs ys
    decidable_of_decidable_of_iff (p := x = y ∧ xs = ys) (by simp)
  | [], _ :: _ | _ :: _, [] => isFalse (by intro h; cases h)

end

instance : DecidableEq Expr := decEq

end Expr

end JavaChecker
