/-!
# JavaChecker.Ty

The types of the checked expressions: `void`, the eight primitive types, the type of `null`,
and the classes.

A class type carries only an identifier. What the identifier stands for is the business of a
class table, so two class types are equal exactly when their identifiers are, whatever the
classes are called and whether or not anything defines them.
-/

namespace JavaChecker

/-! ## Class identifiers -/

/-- Identifier of a class. Identifiers are 32 bits wide and handed out from zero upwards. -/
structure ClassId where
  /-- The identifier as a number, as documents write it. -/
  raw : UInt32
deriving DecidableEq, Inhabited

namespace ClassId

/-- How many identifiers there are. -/
def limit : Nat := Nat.pow 2 32

/-- The position of the identified class in its table. -/
def index (id : ClassId) : Nat := id.raw.toNat

/-- The identifier of a position; there is none from `limit` on. -/
def ofIndex? (n : Nat) : Option ClassId :=
  if n < limit then some ⟨UInt32.ofNat n⟩ else none

/-- Every position of an identifier is below the limit. -/
theorem index_lt_limit (id : ClassId) : id.index < limit := id.raw.toNat_lt

/-- Identifiers with one position are one identifier. -/
theorem index_injective {a b : ClassId} (h : a.index = b.index) : a = b := by
  cases a; cases b
  simpa [index, UInt32.toNat_inj] using h

/-- The identifier of a position below the limit has that position. -/
theorem index_of_ofIndex? {n : Nat} {id : ClassId} (h : ofIndex? n = some id) :
    id.index = n := by
  unfold ofIndex? at h
  split at h
  · next hn =>
    cases h
    simp only [index, UInt32.toNat_ofNat']
    exact Nat.mod_eq_of_lt hn
  · cases h

/-- An identifier is found again from its position. -/
@[simp] theorem ofIndex?_index (id : ClassId) : ofIndex? id.index = some id := by
  rw [ofIndex?, if_pos id.index_lt_limit]
  simp [index]

end ClassId

/-! ## Primitive types -/

/-- The primitive types. -/
inductive Primitive where
  | boolean
  | byte
  | short
  | char
  | int
  | long
  | float
  | double
deriving DecidableEq, Inhabited

namespace Primitive

/-- The word that names the type in source text and in documents. -/
def keyword : Primitive → String
  | .boolean => "boolean"
  | .byte => "byte"
  | .short => "short"
  | .char => "char"
  | .int => "int"
  | .long => "long"
  | .float => "float"
  | .double => "double"

/-- All primitive types, in the order in which documents list them. -/
def all : List Primitive :=
  [.boolean, .byte, .short, .char, .int, .long, .float, .double]

end Primitive

/-! ## Types -/

/-- A type of an expression, a parameter or a result. -/
inductive Ty where
  /-- The result of a method that returns nothing. -/
  | void
  /-- A primitive type. -/
  | primitive (p : Primitive)
  /-- The type of the `null` literal. -/
  | null
  /-- The class with the given identifier, whether or not it is defined. -/
  | ofClass (id : ClassId)
deriving DecidableEq, Inhabited

namespace Ty

/-- Whether values of the type are references: class types and the type of `null`. -/
def isReference : Ty → Bool
  | .ofClass _ | .null => true
  | .void | .primitive _ => false

/-- Whether the type is primitive. -/
def isPrimitive : Ty → Bool
  | .primitive _ => true
  | .void | .null | .ofClass _ => false

/-- The keyword of a primitive type. -/
def keyword? : Ty → Option String
  | .primitive p => some p.keyword
  | .void | .null | .ofClass _ => none

end Ty

end JavaChecker
