import JavaChecker.ClassTable.Walk

/-!
# JavaChecker.ClassTable.Member

What can be called on a type: the method of a given name, the constructor, and whether the type
can be instantiated at all.

A method declared by the class itself wins over inherited ones, and among inherited ones the
nearest in breadth-first order wins. The root class comes last, for classes that do not list it
among their supertypes; only its own methods count then.
-/

namespace JavaChecker

namespace ClassTable

/-- The method of that name that the class behind an identifier declares itself. -/
def declaredMethod? (t : ClassTable) (id : ClassId) (name : String) : Option MethodDef :=
  (t.class? id).bind (·.declaredMethod? name)

/-- The method that a call of this name on the type finds. Only class types have methods. -/
def method? (t : ClassTable) (ty : Ty) (name : String) : Option MethodDef :=
  match ty with
  | .ofClass start =>
    let taken := t.walk start
    match taken.findSome? (t.declaredMethod? · name) with
    | some m => some m
    | none =>
      if taken.contains t.wellKnown.object then none
      else t.declaredMethod? t.wellKnown.object name
  | .void | .primitive _ | .null => none

/-- The constructor of a class type; a class that declares none has the implicit one. -/
def constructor? (t : ClassTable) (ty : Ty) : Option ConstructorDef :=
  match ty with
  | .ofClass id => (t.class? id).map (·.instantiator)
  | .void | .primitive _ | .null => none

/-- Whether the type can be instantiated: only defined, concrete classes can. -/
def isInstantiable (t : ClassTable) (ty : Ty) : Bool :=
  match ty with
  | .ofClass id => (t.class? id).any (·.kind == .concrete)
  | .void | .primitive _ | .null => false

end ClassTable

end JavaChecker
