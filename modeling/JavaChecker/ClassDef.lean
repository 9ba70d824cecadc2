import JavaChecker.Ty

/-!
# JavaChecker.ClassDef

What a class declares: its name and kind, its direct supertypes, at most one constructor, and
its own methods.

A definition is plain data. Supertypes may repeat, may name the class itself, and may name
classes that nothing defines; the searches over a class table are written for all of these.
-/

namespace JavaChecker

/-- What kind of class a definition declares. Only a concrete class can be instantiated. -/
inductive ClassKind where
  | concrete
  | abstract
  | interface
deriving DecidableEq, Inhabited

/-- The word for a kind of class. -/
def ClassKind.word : ClassKind → String
  | .concrete => "class"
  | .abstract => "abstract"
  | .interface => "interface"

/-- A declared method. -/
structure MethodDef where
  name : String
  params : List Ty
  returnType : Ty
deriving DecidableEq, Inhabited

/-- A declared constructor. The one without parameters is also the implicit constructor of a
class that declares none. -/
structure ConstructorDef where
  params : List Ty := []
deriving DecidableEq, Inhabited

/-- The definition of a class. -/
structure ClassDef where
  name : String
  kind : ClassKind
  /-- Direct supertypes, in declaration order. -/
  supertypes : List ClassId := []
  /-- The declared constructor, if there is one. -/
  constructor? : Option ConstructorDef := none
  /-- The methods the class itself declares, in declaration order. -/
  methods : List MethodDef := []
deriving DecidableEq, Inhabited

namespace ClassDef

/-- The class a name stands for before it is defined: concrete and empty. -/
def placeholder (name : String) : ClassDef := { name, kind := .concrete }

/-- The method of that name that the class itself declares; of several, the first. -/
def declaredMethod? (c : ClassDef) (name : String) : Option MethodDef :=
  c.methods.find? (·.name == name)

/-- The constructor that instantiates the class: the declared one, or the implicit one. -/
def instantiator (c : ClassDef) : ConstructorDef := c.constructor?.getD {}

/-! ## Building a definition step by step -/

/-- One more direct supertype, after those already there. -/
def withSupertype (c : ClassDef) (id : ClassId) : ClassDef :=
  { c with supertypes := c.supertypes ++ [id] }

/-- The constructor takes these parameters, whatever it took before. -/
def withConstructor (c : ClassDef) (params : List Ty) : ClassDef :=
  { c with constructor? := some { params } }

/-- One more method, after those already there. -/
def withMethod (c : ClassDef) (m : MethodDef) : ClassDef :=
  { c with methods := c.methods ++ [m] }

end ClassDef

end JavaChecker
