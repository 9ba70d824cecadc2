import JavaChecker.Check.Error
import JavaChecker.ClassTable.Member
import JavaChecker.ClassTable.Render
import JavaChecker.ClassTable.Subtype
import JavaChecker.Expr.Basic

/-!
# JavaChecker.Check.Rule

The typing rules of a single node. `Expr.violation?` looks at a node and at the static types of
its children, never below, and gives the first rule the node breaks.

A child without a static type satisfies every requirement on it. The rules of a call are tried in
this order: the callee exists, the number of arguments is right, the arguments fit.
-/

namespace JavaChecker

/-- Whether every typed argument fits the parameter at its position. -/
def ClassTable.accepts (t : ClassTable) (args : List (Option Ty)) (params : List Ty) : Bool :=
  (args.zip params).all fun (arg, param) => arg.all (t.isSubtype · param)

/-- The leftmost typed argument that does not fit its parameter, with the parameter. -/
def ClassTable.firstMisfit? (t : ClassTable) :
    List (Option Ty) → List Ty → Option (Ty × Ty)
  | arg :: args, param :: params =>
    match arg with
    | none => t.firstMisfit? args params
    | some ty => if t.isSubtype ty param then t.firstMisfit? args params else some (ty, param)
  | _, _ => none

namespace Expr

/-- The rule of an assignment: the value's type is a subtype of the variable's. -/
def assignViolation? (t : ClassTable) (name : String) (ty : Ty) (value? : Option Ty) :
    Option TypeError :=
  match value? with
  | none => none
  | some value =>
    if t.isSubtype value ty then none
    else some (.assignment (t.render value) name (t.render ty))

/-- The rules of a method call on a receiver of known type. -/
def callViolation? (t : ClassTable) (receiver : Ty) (method : String) (args : List (Option Ty)) :
    Option TypeError :=
  match t.method? receiver method with
  | none => some (.noSuchMethod (t.render receiver) method)
  | some m =>
    if m.params.length ≠ args.length then
      some (.argumentCount (.method (t.render receiver) method) m.params.length args.length)
    else if t.accepts args m.params then none
    else some (.methodArguments (t.render receiver) method
      (t.renderTuple (m.params.map some)) (t.renderTuple args))

/-- The rules of a constructor call. -/
def newViolation? (t : ClassTable) (ty : Ty) (args : List (Option Ty)) : Option TypeError :=
  if !t.isInstantiable ty then some (.illegalInstantiation (t.render ty))
  else
    match t.constructor? ty with
    | none => some (.illegalInstantiation (t.render ty))
    | some c =>
      if c.params.length ≠ args.length then
        some (.argumentCount (.constructor (t.render ty)) c.params.length args.length)
      else
        (t.firstMisfit? args c.params).map fun (arg, param) =>
          .constructorArgument (t.render ty) (t.render param) (t.render arg)

/-- The first rule that the node itself breaks. -/
def violation? (t : ClassTable) : Expr → Option TypeError
  | .var .. | .lit .. | .null => none
  | .assign name ty rhs => assignViolation? t name ty rhs.staticType?
  | .call receiver method args =>
    match receiver.staticType? with
    | none => none
    | some ty => callViolation? t ty method (args.map staticType?)
  | .new ty args => newViolation? t ty (args.map staticType?)

end Expr

end JavaChecker
