import JavaChecker.ClassTable.Basic

/-!
# JavaChecker.ClassTable.Walk

The breadth-first walk of the supertype graph, on which subtyping and member lookup rest.

The walk takes identifiers from a queue. An identifier taken for the first time puts the direct
supertypes of its class at the end of the queue; one taken before, and one that nothing defines,
puts nothing there. So the walk ends on every table, whatever cycles, repetitions and undefined
identifiers its supertype lists hold: either a class is expanded for the first time, and there
are finitely many, or the queue gets shorter.

`walk` lists every identifier the walk takes, repetitions included, in the order of taking. Both
searches read off this list: a class inherits from another when the other is taken at all, and
the method that a call finds is the first one declared by a taken class.
-/

namespace JavaChecker

namespace ClassTable

/-- How many classes of the table the walk has not taken yet. -/
def unvisited (t : ClassTable) (seen : List ClassId) : Nat :=
  (t.ids.filter (!seen.contains ·)).length

/-- An identifier that the table defines is among its identifiers. -/
theorem mem_ids_of_class? {t : ClassTable} {id : ClassId} {c : ClassDef}
    (h : t.class? id = some c) : id ∈ t.ids := by
  have hlt : id.index < t.classes.toList.length := by
    have := (Array.getElem?_eq_some_iff.mp h).1
    simpa using this
  simp only [ids, toList, List.mem_map, List.mem_mapIdx]
  exact ⟨(id, t.classes.toList[id.index]), ⟨id.index, hlt, by simp [ClassId.index]⟩, rfl⟩

/-- Taking an identifier leaves the classes with another one. -/
theorem unvisited_cons (t : ClassTable) (seen : List ClassId) (id : ClassId) :
    t.unvisited (id :: seen) = ((t.ids.filter (!seen.contains ·)).filter (· != id)).length := by
  rw [unvisited, List.filter_filter]
  congr 2
  funext x
  by_cases hx : x = id
  · simp [hx]
  · simp [hx]

/-- Taking a defined class for the first time leaves fewer of them. -/
theorem unvisited_cons_lt {t : ClassTable} {seen : List ClassId} {id : ClassId} {c : ClassDef}
    (hc : t.class? id = some c) (hs : seen.contains id = false) :
    t.unvisited (id :: seen) < t.unvisited seen := by
  have hmem := mem_ids_of_class? hc
  rw [unvisited_cons, unvisited, List.length_filter_lt_length_iff_exists]
  exact ⟨id, by simp [hmem]; simpa using hs, by simp⟩

/-- Taking an identifier never leaves more classes to take. -/
theorem unvisited_cons_le (t : ClassTable) (seen : List ClassId) (id : ClassId) :
    t.unvisited (id :: seen) ≤ t.unvisited seen := by
  rw [unvisited_cons]
  exact List.length_filter_le _ _

/-- The identifiers taken from here on, given the queue and the identifiers taken so far. -/
def walkFrom (t : ClassTable) (queue seen : List ClassId) : List ClassId :=
  match queue with
  | [] => []
  | id :: rest =>
    if _hs : seen.contains id then id :: t.walkFrom rest seen
    else
      match _hc : t.class? id with
      | none => id :: t.walkFrom rest (id :: seen)
      | some c => id :: t.walkFrom (rest ++ c.supertypes) (id :: seen)
termination_by (t.unvisited seen, queue.length)
decreasing_by
  · exact .right _ (by simp)
  · have := t.unvisited_cons_le seen id
    rcases Nat.lt_or_eq_of_le this with h | h
    · exact .left _ _ h
    · rw [h]; exact .right _ (by simp)
  · exact .left _ _ (unvisited_cons_lt _hc (by simpa using _hs))

/-- Every identifier that the walk from a class takes, in order. -/
def walk (t : ClassTable) (start : ClassId) : List ClassId := t.walkFrom [start] []

/-! ## The steps of the walk -/

@[simp] theorem walkFrom_nil (t : ClassTable) (seen : List ClassId) : t.walkFrom [] seen = [] := by
  rw [walkFrom]

/-- An identifier taken before is passed over. -/
theorem walkFrom_seen {t : ClassTable} {id : ClassId} {rest seen : List ClassId} (h : id ∈ seen) :
    t.walkFrom (id :: rest) seen = id :: t.walkFrom rest seen := by
  rw [walkFrom, dif_pos (by simpa using h)]

/-- An identifier that nothing defines has no supertypes. -/
theorem walkFrom_undefined {t : ClassTable} {id : ClassId} {rest seen : List ClassId}
    (h : id ∉ seen) (hc : t.class? id = none) :
    t.walkFrom (id :: rest) seen = id :: t.walkFrom rest (id :: seen) := by
  rw [walkFrom, dif_neg (by simpa using h)]
  split
  · rfl
  · next c h' => rw [hc] at h'; cases h'

/-- A class taken for the first time queues its direct supertypes. -/
theorem walkFrom_defined {t : ClassTable} {id : ClassId} {rest seen : List ClassId} {c : ClassDef}
    (h : id ∉ seen) (hc : t.class? id = some c) :
    t.walkFrom (id :: rest) seen = id :: t.walkFrom (rest ++ c.supertypes) (id :: seen) := by
  rw [walkFrom, dif_neg (by simpa using h)]
  split
  · next h' => rw [hc] at h'; cases h'
  · next c' h' => rw [hc] at h'; cases h'; rfl

/-- The walk takes its start first. -/
theorem mem_walk_self (t : ClassTable) (id : ClassId) : id ∈ t.walk id := by
  unfold walk
  cases hc : t.class? id with
  | none => rw [walkFrom_undefined (by simp) hc]; simp
  | some c => rw [walkFrom_defined (by simp) hc]; simp

end ClassTable

end JavaChecker
