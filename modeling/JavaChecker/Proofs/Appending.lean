import JavaChecker.Files.Snapshot

/-!
# JavaChecker.Proofs.Appending

Files that are opened to append to them. `Appended` says what becomes of a snapshot: the path still
leads to the file, the file holds what it held before and then what was appended, and everything
else is as it was. Opening a file gives this with nothing appended (`appended_of_openToAppend?`),
whether the file was there or had to be made, and each further piece keeps it
(`Appended.append`).

Following a path asks only what is a directory and what is there at all. Making a file and appending
to it take away neither (`Grown`), so paths go on leading where they led.
-/

namespace JavaChecker.Files.Snapshot

variable {s s' : Snapshot} {path : String} {loc : Location}

/-! ### What is where after a change -/

theorem find?_filter_of_ne {entries : List (Location × Entry)} {other : Location}
    (h : other ≠ loc) :
    (entries.filter (·.1 != loc)).find? (·.1 == other) = entries.find? (·.1 == other) := by
  rw [List.find?_filter]
  congr 1
  funext a
  by_cases ha : a.1 = other
  · simp [ha, h]
  · simp [ha]

theorem entry?_put (s : Snapshot) {loc : Location} (hloc : loc ≠ []) (e : Entry)
    (other : Location) :
    entry? (s.put loc e) other = if other = loc then some e else s.entry? other := by
  by_cases hother : other = loc
  · subst hother
    have hnone : (s.entries.filter (·.1 != other)).find? (·.1 == other) = none := by
      rw [List.find?_eq_none]
      intro a ha
      simpa using (List.mem_filter.mp ha).2
    rw [if_pos rfl, entry?, if_neg hloc, put, List.find?_append, hnone]
    simp
  · have hlast : (loc == other) = false := by simpa using Ne.symm hother
    rw [if_neg hother, entry?, entry?, put, List.find?_append, find?_filter_of_ne hother]
    simp [hlast]

theorem ne_nil_of_entry?_ne_directory (h : s.entry? loc ≠ some .directory) : loc ≠ [] := by
  intro hloc
  unfold entry? at h
  rw [if_pos hloc] at h
  exact h rfl

theorem entry?_append {old : List UInt8} (h : s.entry? loc = some (.file old))
    (bytes : List UInt8) (other : Location) :
    entry? (s.append loc bytes) other =
      if other = loc then some (.file (old ++ bytes)) else s.entry? other := by
  have hloc : loc ≠ [] := ne_nil_of_entry?_ne_directory (s := s) (by rw [h]; simp)
  rw [append, h]
  exact entry?_put s hloc _ other

/-! ### Where paths lead

The file stands where no directory is, so the way that a path takes does not go through it. -/

/-- What is there stays there, and directories stay directories. -/
structure Grown (s s' : Snapshot) : Prop where
  directory : ∀ loc, s.entry? loc = some .directory → s'.entry? loc = some .directory
  isSome : ∀ loc, (s.entry? loc).isSome = true → (s'.entry? loc).isSome = true

theorem grown_put (h : s.entry? loc ≠ some .directory) (e : Entry) : Grown s (s.put loc e) := by
  have hloc : loc ≠ [] := ne_nil_of_entry?_ne_directory h
  refine ⟨?_, ?_⟩
  · intro other hother
    have hne : other ≠ loc := by
      rintro rfl
      exact h hother
    rw [entry?_put s hloc, if_neg hne, hother]
  · intro other hother
    rw [entry?_put s hloc]
    split
    · rfl
    · exact hother

theorem grown_append {old : List UInt8} (h : s.entry? loc = some (.file old))
    (bytes : List UInt8) : Grown s (s.append loc bytes) := by
  rw [append, h]
  exact grown_put (by rw [h]; simp) _

theorem Grown.follow_ok (h : Grown s s') {name : String} {here there : Location}
    (hok : s.follow here name = .ok there) : s'.follow here name = .ok there := by
  have hhere := h.directory here
  have hnext := h.isSome (here ++ [name])
  grind [follow]

theorem Grown.walk_ok (h : Grown s s') {names : List String} {there : Location}
    (hok : s.walk names = .ok there) : s'.walk names = .ok there := by
  unfold walk at hok ⊢
  -- On the way the walk goes on from somewhere else than the root.
  generalize ([] : Location) = here at hok ⊢
  induction names generalizing here with
  | nil => exact hok
  | cons name names ih =>
      rw [List.foldlM_cons] at hok ⊢
      cases hstep : s.follow here name with
      | error err =>
          rw [hstep] at hok
          cases hok
      | ok next =>
          rw [hstep] at hok
          rw [h.follow_ok hstep]
          exact ih next hok

theorem Grown.resolve_ok (h : Grown s s') (hok : s.resolve path = .ok loc) :
    s'.resolve path = .ok loc := by
  have hwalk : s.walk (names path) = .ok loc → s'.walk (names path) = .ok loc := h.walk_ok
  grind [resolve, locate]

/-! ### A file that is made -/

theorem walk_concat (s : Snapshot) (front : List String) (name : String) :
    s.walk (front ++ [name]) = s.walk front >>= (s.follow · name) := by
  simp [walk, List.foldlM_append]

theorem follow_put_of_notFound {name : String} {here : Location}
    (h : s.follow here name = .error .notFound) (e : Entry) :
    s.entry? (here ++ [name]) = none ∧
      (s.put (here ++ [name]) e).follow here name = .ok (here ++ [name]) := by
  have hnone : s.entry? (here ++ [name]) = none := by grind [follow, Option.isSome_iff_ne_none]
  have hhere := (grown_put (by rw [hnone]; simp) e).directory here
  have hnext : entry? (s.put (here ++ [name]) e) (here ++ [name]) = some e := by
    rw [entry?_put s (by simp), if_pos rfl]
  refine ⟨hnone, ?_⟩
  grind [follow]

theorem walk_put_of_newLocation? {names : List String} (h : s.newLocation? names = some loc)
    (e : Entry) : s.entry? loc = none ∧ (s.put loc e).walk names = .ok loc := by
  unfold newLocation? at h
  split at h
  · next name here hname hhere =>
      split at h
      · next hnotFound =>
          cases h
          obtain ⟨hnone, hfollow⟩ := follow_put_of_notFound hnotFound e
          have hway := (grown_put (by rw [hnone]; simp) e).walk_ok hhere
          obtain ⟨front, rfl⟩ := List.getLast?_eq_some_iff.mp hname
          rw [List.dropLast_concat] at hway
          refine ⟨hnone, ?_⟩
          rw [walk_concat, hway]
          exact hfollow
      · cases h
  · cases h

theorem newLocation?_names_empty (s : Snapshot) : s.newLocation? (names "") = none :=
  rfl

theorem resolve_put_of_newLocation? (hnew : s.newLocation? (names path) = some loc)
    (hnotFound : s.resolve path = .error .notFound) (e : Entry) :
    (s.put loc e).resolve path = .ok loc := by
  obtain ⟨-, hwalk⟩ := walk_put_of_newLocation? hnew e
  -- The empty path leads nowhere either, but its one name stays at the root.
  have hpath : path ≠ "" := by
    rintro rfl
    rw [newLocation?_names_empty] at hnew
    cases hnew
  unfold resolve locate at hnotFound ⊢
  grind

/-! ### Opening and appending -/

/-- The file that `path` leads to in `s'` is at `loc` and has `bytes` after the bytes it had in
`s`, `old`. It may be new, and then it had none. Nothing else differs. -/
structure Appended (s : Snapshot) (path : String) (loc : Location) (old bytes : List UInt8)
    (s' : Snapshot) : Prop where
  read_before : s.read path = .ok old ∨ s.read path = .error .notFound ∧ old = []
  resolve_eq : s'.resolve path = .ok loc
  entry?_eq : s'.entry? loc = some (.file (old ++ bytes))
  others : ∀ other, other ≠ loc → s'.entry? other = s.entry? other

/-- A file that is opened is there, with the bytes it had if it was there before. -/
theorem appended_of_openToAppend? (h : s.openToAppend? path = some (s', loc)) :
    ∃ old, Appended s path loc old [] s' := by
  unfold openToAppend? at h
  split at h
  · next there hresolve =>
      split at h
      · next old hfile =>
          cases h
          refine ⟨old, .inl ?_, hresolve, ?_, fun _ _ => rfl⟩
          · simp only [read, hresolve, bind, Except.bind, hfile]
          · rw [List.append_nil, hfile]
      · cases h
  · next hresolve =>
      obtain ⟨there, hnew, hpair⟩ := Option.map_eq_some_iff.mp h
      cases hpair
      obtain ⟨hnone, -⟩ := walk_put_of_newLocation? hnew (.file [])
      have hloc : loc ≠ [] := ne_nil_of_entry?_ne_directory (s := s) (by rw [hnone]; simp)
      refine ⟨[], .inr ⟨?_, rfl⟩, resolve_put_of_newLocation? hnew hresolve _, ?_, ?_⟩
      · simp only [read, hresolve, bind, Except.bind]
      · rw [entry?_put s hloc, if_pos rfl, List.append_nil]
      · intro other hother
        rw [entry?_put s hloc, if_neg hother]
  · cases h

theorem Appended.append {old bytes : List UInt8} (h : Appended s path loc old bytes s')
    (more : List UInt8) : Appended s path loc old (bytes ++ more) (s'.append loc more) := by
  have hafter := entry?_append h.entry?_eq more
  have hgrown := grown_append h.entry?_eq more
  refine ⟨h.read_before, hgrown.resolve_ok h.resolve_eq, ?_, ?_⟩
  · rw [hafter, if_pos rfl, List.append_assoc]
  · intro other hother
    rw [hafter, if_neg hother, h.others other hother]

theorem Appended.read_eq {old bytes : List UInt8} (h : Appended s path loc old bytes s') :
    s'.read path = .ok (old ++ bytes) := by
  simp only [read, h.resolve_eq, bind, Except.bind, h.entry?_eq]

end JavaChecker.Files.Snapshot
