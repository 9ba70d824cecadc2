import JavaChecker.Ty

/-!
# JavaChecker.Check.Error

What can be wrong with an expression, with the wording of each complaint. Types appear in an error
as the text a reader sees, since errors outlive the class table they arose from.
-/

namespace JavaChecker

/-- The kind of an error, which is also its code in diagnostics. -/
inductive TypeErrorKind where
  | typeMismatch
  | argumentCount
  | noSuchMethod
  | illegalInstantiation
deriving DecidableEq, Inhabited

/-- The code of a kind of error. -/
def TypeErrorKind.code : TypeErrorKind → String
  | .typeMismatch => "type-mismatch"
  | .argumentCount => "argument-count"
  | .noSuchMethod => "no-such-method"
  | .illegalInstantiation => "illegal-instantiation"

/-- What a call calls. -/
inductive Callee where
  | method (receiver name : String)
  | constructor (ty : String)
deriving DecidableEq, Inhabited

/-- A callee in words. -/
def Callee.render : Callee → String
  | .method receiver name => s!"{receiver}.{name}()"
  | .constructor ty => s!"{ty} constructor"

/-- A violated typing rule. -/
inductive TypeError where
  /-- The assigned value does not fit the variable. -/
  | assignment (valueType variableName variableType : String)
  /-- Some argument of a method call does not fit; both lists are given in full. -/
  | methodArguments (receiver method expected actual : String)
  /-- An argument of a constructor call does not fit; it is the leftmost such argument. -/
  | constructorArgument (ty expected actual : String)
  /-- A call has too many or too few arguments. -/
  | argumentCount (callee : Callee) (expected actual : Nat)
  /-- The receiver's type has no method of that name. -/
  | noSuchMethod (receiver method : String)
  /-- The type cannot be instantiated. -/
  | illegalInstantiation (ty : String)
deriving DecidableEq, Inhabited

namespace TypeError

/-- The kind of an error: three of the errors are mismatches of types. -/
def kind : TypeError → TypeErrorKind
  | .assignment .. | .methodArguments .. | .constructorArgument .. => .typeMismatch
  | .argumentCount .. => .argumentCount
  | .noSuchMethod .. => .noSuchMethod
  | .illegalInstantiation .. => .illegalInstantiation

/-- The code of an error. -/
def code (e : TypeError) : String := e.kind.code

/-- The error in words. -/
def message : TypeError → String
  | .assignment value name ty => s!"Cannot assign {value} to variable {name} of type {ty}"
  | .methodArguments receiver method expected actual =>
    s!"{receiver}.{method}() expects arguments of type {expected}, but got {actual}"
  | .constructorArgument ty expected actual =>
    s!"{ty} constructor expects arguments of type {expected}, but got {actual}"
  | .argumentCount callee expected actual =>
    s!"Wrong number of arguments for {callee.render}: expected {expected}, got {actual}"
  | .noSuchMethod receiver method => s!"{receiver} has no method named {method}"
  | .illegalInstantiation ty => s!"{ty} is not instantiable"

end TypeError

end JavaChecker
