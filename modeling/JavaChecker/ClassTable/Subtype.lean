import JavaChecker.ClassTable.Walk

/-!
# JavaChecker.ClassTable.Subtype

Subtyping. A type is a subtype of itself; `null` is a subtype of every reference type; every
class type is a subtype of the root class; and class types are otherwise related through their
declared supertypes. Primitive types and `void` relate to nothing but themselves: there is no
widening.
-/

namespace JavaChecker

namespace ClassTable

/-- Whether the walk from one class takes the other, that is, whether declared supertypes lead
from the first to the second. A class inherits from itself. -/
def inherits (t : ClassTable) (sub sup : ClassId) : Bool := (t.walk sub).contains sup

/-- Whether the first type is a subtype of the second. -/
def isSubtype (t : ClassTable) (sub sup : Ty) : Bool :=
  sub == sup ||
    match sub, sup with
    | .null, sup => sup.isReference
    | .ofClass a, .ofClass b => b == t.wellKnown.object || t.inherits a b
    | _, _ => false

/-- Every type is a subtype of itself. -/
@[simp] theorem isSubtype_refl (t : ClassTable) (a : Ty) : t.isSubtype a a = true := by
  simp [isSubtype]

/-- `null` is a subtype of the reference types, and of nothing else. -/
@[simp] theorem isSubtype_null (t : ClassTable) (a : Ty) :
    t.isSubtype .null a = a.isReference := by
  cases a <;> simp [isSubtype, Ty.isReference]

end ClassTable

end JavaChecker
