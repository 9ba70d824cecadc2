import JavaChecker.Ty

/-!
# JavaChecker.ClassTable.NameIndex

An index from class names to identifiers. `insert` replaces, `erase` removes, and each is pinned
down by what `find?` gives afterwards; nothing else looks at the entries.
-/

namespace JavaChecker

/-- Names and the identifiers they stand for. -/
structure NameIndex where
  entries : List (String × ClassId) := []
deriving DecidableEq, Inhabited

namespace NameIndex

/-- The identifier a name stands for. -/
def find? (ix : NameIndex) (name : String) : Option ClassId :=
  (ix.entries.find? (·.1 == name)).map Prod.snd

/-- Whether the name stands for a class. -/
def contains (ix : NameIndex) (name : String) : Bool := (ix.find? name).isSome

/-- Forget a name. -/
def erase (ix : NameIndex) (name : String) : NameIndex :=
  ⟨ix.entries.filter (·.1 != name)⟩

/-- Let a name stand for an identifier, whatever it stood for before. -/
def insert (ix : NameIndex) (name : String) (id : ClassId) : NameIndex :=
  ⟨(name, id) :: (ix.erase name).entries⟩

/-- The index without names. -/
def empty : NameIndex := {}

/-! ## What `find?` gives -/

@[simp] theorem find?_empty (name : String) : empty.find? name = none := rfl

/-- After an `erase` the name is gone and the others stay. -/
theorem find?_erase (ix : NameIndex) (name other : String) :
    (ix.erase name).find? other = if other = name then none else ix.find? other := by
  unfold find? erase
  rw [List.find?_filter]
  by_cases h : other = name
  · subst h
    simp
  · rw [if_neg h]
    congr 2
    funext e
    by_cases he : e.1 = other
    · simp [he, h]
    · simp [he]

/-- After an `insert` the name has its new identifier and the others keep theirs. -/
theorem find?_insert (ix : NameIndex) (name other : String) (id : ClassId) :
    (ix.insert name id).find? other = if other = name then some id else ix.find? other := by
  by_cases h : other = name
  · subst h
    simp [insert, find?]
  · have hne : ¬ name = other := fun e => h e.symm
    have := find?_erase ix name other
    simp only [find?] at this
    simp [insert, find?, hne, h, this]

end NameIndex

end JavaChecker
