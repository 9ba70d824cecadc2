import JavaChecker.ClassDef
import JavaChecker.ClassTable.NameIndex

/-!
# JavaChecker.ClassTable.Basic

A table of classes. Classes are numbered in the order in which their names are first seen, and an
identifier keeps its meaning for good: whatever replaces a definition replaces it in place.

* `intern` gives the identifier of a name and reserves a placeholder for a new one, so that
  classes which mention each other can be numbered before any of them is defined;
* `add` defines a class under its name, new or not;
* `define` replaces the definition behind an identifier, and may rename the class. It gives the
  table afterwards also when it refuses; that this is the table it was given is not part of its
  definition (`defineStep`).

The table keeps an index from names to identifiers beside the classes. The structure itself
promises nothing about the two; `Reachable` describes the tables that operations build, and
everything that reads a table is written for arbitrary ones.
-/

namespace JavaChecker

/-- The two classes the language itself knows. -/
structure WellKnown where
  object : ClassId
  string : ClassId
deriving DecidableEq, Inhabited

/-- Classes by identifier, an index by name, and the identifiers of the well-known classes. -/
structure ClassTable where
  /-- The definition of the class with identifier `i` stands at position `i`. -/
  classes : Array ClassDef
  /-- Which identifier a class name belongs to. -/
  index : NameIndex
  wellKnown : WellKnown
deriving Inhabited

/-- Why a definition was refused. -/
inductive DefineError where
  /-- The table has no class with this identifier. -/
  | unknownClass (id : ClassId)
  /-- The definition's name is the name of another class. -/
  | nameTaken (name : String)
deriving DecidableEq

/-- The refusal in words. -/
def DefineError.message : DefineError → String
  | .unknownClass id => s!"unknown class id {id.raw.toNat}"
  | .nameTaken name => s!"class name {name} already belongs to another class"

namespace ClassTable

/-! ## Reading -/

/-- The number of classes, placeholders included. -/
def size (t : ClassTable) : Nat := t.classes.size

/-- The definition behind an identifier. -/
def class? (t : ClassTable) (id : ClassId) : Option ClassDef := t.classes[id.index]?

/-- The identifier of the class with that name. -/
def lookup? (t : ClassTable) (name : String) : Option ClassId := t.index.find? name

/-- The identifiers of the table with their classes, in order. -/
def toList (t : ClassTable) : List (ClassId × ClassDef) :=
  t.classes.toList.mapIdx fun i c => (⟨UInt32.ofNat i⟩, c)

/-- The identifiers of the defined classes, in order. -/
def ids (t : ClassTable) : List ClassId := t.toList.map Prod.fst

/-- The type of the root class. -/
def objectTy (t : ClassTable) : Ty := .ofClass t.wellKnown.object

/-- The type of text. -/
def stringTy (t : ClassTable) : Ty := .ofClass t.wellKnown.string

/-! ## The initial table -/

/-- The root class as the language defines it. -/
def objectClass : ClassDef where
  name := "Object"
  kind := .concrete
  methods := [
    { name := "equals", params := [.ofClass ⟨0⟩], returnType := .primitive .boolean },
    { name := "hashCode", params := [], returnType := .primitive .int },
    { name := "toString", params := [], returnType := .ofClass ⟨1⟩ }]

/-- The class of text as the language defines it. -/
def stringClass : ClassDef where
  name := "String"
  kind := .concrete
  supertypes := [⟨0⟩]
  methods := [
    { name := "length", params := [], returnType := .primitive .int },
    { name := "isEmpty", params := [], returnType := .primitive .boolean },
    { name := "charAt", params := [.primitive .int], returnType := .primitive .char },
    { name := "concat", params := [.ofClass ⟨1⟩], returnType := .ofClass ⟨1⟩ }]

/-- The table that holds only the well-known classes. -/
def initial : ClassTable where
  classes := #[objectClass, stringClass]
  index := (NameIndex.empty.insert "Object" ⟨0⟩).insert "String" ⟨1⟩
  wellKnown := { object := ⟨0⟩, string := ⟨1⟩ }

/-! ## Changing -/

/-- The identifier of a name, and the table that knows it. A name seen for the first time gets
the next identifier and a placeholder class. There is no answer when every identifier is in use
and the name is new. -/
def intern (t : ClassTable) (name : String) : Option (ClassTable × ClassId) :=
  match t.lookup? name with
  | some id => some (t, id)
  | none =>
    (ClassId.ofIndex? t.size).map fun id =>
      ({ t with
          classes := t.classes.push (.placeholder name)
          index := t.index.insert name id }, id)

/-- Put a definition at an identifier without looking at names. -/
def store (t : ClassTable) (id : ClassId) (c : ClassDef) : ClassTable :=
  { t with classes := t.classes.setIfInBounds id.index c }

/-- Define a class under its name: a class of that name is replaced in place, a new name gets
the next identifier. -/
def add (t : ClassTable) (c : ClassDef) : Option (ClassTable × ClassId) :=
  (t.intern c.name).map fun (t, id) => (t.store id c, id)

/-- The steps that replace the definition behind an identifier. A definition with a new name renames
the class, unless another class has that name already. A refusal ends the steps, and the table is
then as the steps before it have left it. -/
def redefine (id : ClassId) (c : ClassDef) : EStateM DefineError ClassTable Unit := do
  let some current := (← get).class? id | throw (.unknownClass id)
  if current.name ≠ c.name then
    if (← get).index.contains c.name then
      throw (.nameTaken c.name)
    modify fun t => { t with index := t.index.erase current.name }
    modify fun t => { t with index := t.index.insert c.name id }
  modify (·.store id c)

/-- Replace the definition behind an identifier: whether it was refused, and the table then. -/
def define (t : ClassTable) (id : ClassId) (c : ClassDef) :
    EStateM.Result DefineError ClassTable Unit :=
  (redefine id c).run t

/-! ## Tables that operations build -/

/-- An operation on a table. -/
inductive Op where
  | intern (name : String)
  | add (c : ClassDef)
  | define (id : ClassId) (c : ClassDef)

/-- The table after an operation, refused or not. -/
def apply (t : ClassTable) : Op → ClassTable
  | .intern name => ((t.intern name).map Prod.fst).getD t
  | .add c => ((t.add c).map Prod.fst).getD t
  | .define id c =>
    match t.define id c with
    | .ok _ t' => t'
    | .error _ t' => t'

/-- The tables that operations build from the initial one. -/
inductive Reachable : ClassTable → Prop where
  | initial : Reachable .initial
  | step {t : ClassTable} (op : Op) : Reachable t → Reachable (t.apply op)

/-! ## What the operations leave in place -/

@[simp] theorem size_store (t : ClassTable) (id : ClassId) (c : ClassDef) :
    (t.store id c).size = t.size := by
  simp [store, size]

@[simp] theorem wellKnown_store (t : ClassTable) (id : ClassId) (c : ClassDef) :
    (t.store id c).wellKnown = t.wellKnown := rfl

@[simp] theorem lookup?_store (t : ClassTable) (id : ClassId) (c : ClassDef) (name : String) :
    (t.store id c).lookup? name = t.lookup? name := rfl

/-- Storing a class changes what its identifier stands for, and only that. -/
theorem class?_store (t : ClassTable) (id other : ClassId) (c : ClassDef) :
    (t.store id c).class? other =
      if other = id then (t.class? id).map fun _ => c else t.class? other := by
  by_cases h : other = id
  · subst h
    by_cases hb : other.index < t.classes.size
    · simp [class?, store, hb]
    · simp [class?, store, hb]
  · have hne : ¬ id.index = other.index := fun he => h (ClassId.index_injective he).symm
    simp [class?, store, hne, h]

/-! ## What a definition does -/

/-- All that defining a class can do: what it answers, with the table afterwards. -/
inductive DefineStep (t : ClassTable) (id : ClassId) (c : ClassDef) :
    EStateM.Result DefineError ClassTable Unit → Prop where
  | unknown (hc : t.class? id = none) : DefineStep t id c (.error (.unknownClass id) t)
  | taken {current : ClassDef} (hc : t.class? id = some current) (hname : current.name ≠ c.name)
      (h : (t.lookup? c.name).isSome = true) : DefineStep t id c (.error (.nameTaken c.name) t)
  | replaced {current : ClassDef} (hc : t.class? id = some current)
      (hname : current.name = c.name) : DefineStep t id c (.ok () (t.store id c))
  | renamed {current : ClassDef} (hc : t.class? id = some current) (hname : current.name ≠ c.name)
      (h : t.lookup? c.name = none) :
      DefineStep t id c
        (.ok () { t.store id c with index := (t.index.erase current.name).insert c.name id })

theorem define_of_named (t : ClassTable) {id : ClassId} {c current : ClassDef}
    (hc : t.class? id = some current) (hname : current.name = c.name) :
    t.define id c = .ok () (t.store id c) := by
  simp [define, redefine, hc, hname]

theorem defineStep {t : ClassTable} {id : ClassId} {c : ClassDef}
    {r : EStateM.Result DefineError ClassTable Unit} (h : t.define id c = r) :
    DefineStep t id c r := by
  subst h
  cases hc : t.class? id with
  | none =>
    have hdefine : t.define id c = .error (.unknownClass id) t := by simp [define, redefine, hc]
    exact hdefine ▸ .unknown hc
  | some current =>
    by_cases hname : current.name = c.name
    · exact t.define_of_named hc hname ▸ .replaced hc hname
    · cases hl : t.lookup? c.name with
      | some other =>
        have htaken : t.index.contains c.name = true := by
          rw [NameIndex.contains, ← lookup?, hl]
          rfl
        have hdefine : t.define id c = .error (.nameTaken c.name) t := by
          simp [define, redefine, hc, hname, htaken]
        exact hdefine ▸ .taken hc hname (by rw [hl]; rfl)
      | none =>
        have hfree : t.index.contains c.name = false := by
          rw [NameIndex.contains, ← lookup?, hl]
          rfl
        have hdefine : t.define id c = .ok () { t.store id c with
            index := (t.index.erase current.name).insert c.name id } := by
          simp [define, redefine, store, hc, hname, hfree]
        exact hdefine ▸ .renamed hc hname hl

end ClassTable

end JavaChecker
