import JavaChecker.ClassTable.Subtype
import JavaChecker.Proofs.Lookup
import Mathlib.Algebra.BigOperators.Group.Finset.Basic

/-!
# JavaChecker.Proofs.SearchSteps

How long the two searches of the supertype graph take.

* **The walk is short** (`length_walk_le`). Its queue grows and shrinks, but the supertypes of a
  class are put there once. So each entry it takes is the start or one of the supertypes that the
  table declares.
* **The searches are parts of the walk.** `inherits` and `method?` read their answers off the whole
  walk. The same answers come from a search that takes one entry from its queue at a time and stops
  as soon as it can tell: `supertypeTurn` looks for a class, `methodTurn` for a class that declares
  a name. What such a search takes is a beginning of the walk (`exists_ends_supertypeTurn`,
  `exists_ends_methodTurn`), and it expands no class twice (`ExpandsOnce`).
-/

namespace JavaChecker

namespace ClassTable

variable {t : ClassTable}

/-! ### The length of the walk -/

/-- How many supertypes the defined classes declare, all in all. -/
def supertypeCount (t : ClassTable) : Nat :=
  ∑ id ∈ t.ids.toFinset, (t.supertypesOf id).length

/-- How many of them are declared by classes that the walk has not taken yet. -/
def supertypesLeft (t : ClassTable) (seen : List ClassId) : Nat :=
  ∑ id ∈ t.ids.toFinset \ seen.toFinset, (t.supertypesOf id).length

theorem supertypesLeft_nil (t : ClassTable) : t.supertypesLeft [] = t.supertypeCount := by
  rw [supertypesLeft, List.toFinset_nil, Finset.sdiff_empty, supertypeCount]

/-- A class taken for the first time takes its supertypes with it. -/
theorem supertypesLeft_cons {id : ClassId} {seen : List ClassId} (h : id ∉ seen) :
    (t.supertypesOf id).length + t.supertypesLeft (id :: seen) = t.supertypesLeft seen := by
  rw [supertypesLeft, supertypesLeft, List.toFinset_cons, Finset.sdiff_insert]
  cases hc : t.class? id with
  | some c =>
      have hmem : id ∈ t.ids.toFinset \ seen.toFinset := by
        simp [mem_ids_of_class? hc, h]
      exact Finset.add_sum_erase _ (fun id => (t.supertypesOf id).length) hmem
  | none =>
      have hzero : (t.supertypesOf id).length = 0 := by
        rw [supertypesOf_undefined hc, List.length_nil]
      rw [hzero, Nat.zero_add]
      exact Finset.sum_erase _ hzero

/-- What the walk still takes is what waits in the queue, and no more than the supertypes of the
classes that it has not taken. -/
theorem length_walkFrom_le (t : ClassTable) (queue seen : List ClassId) :
    (t.walkFrom queue seen).length ≤ queue.length + t.supertypesLeft seen := by
  induction queue, seen using walk_induction (t := t) with
  | nil seen =>
      rw [walkFrom_nil]
      exact Nat.zero_le _
  | skip id rest seen hid ih =>
      rw [walkFrom_seen hid, List.length_cons, List.length_cons]
      omega
  | take id rest seen hid ih =>
      -- What the queue gains is what the classes not taken lose, so only the entry itself counts.
      have hleft := supertypesLeft_cons (t := t) hid
      rw [List.length_append] at ih
      rw [walkFrom_fresh hid, List.length_cons, List.length_cons]
      omega

theorem length_walk_le (t : ClassTable) (start : ClassId) :
    (t.walk start).length ≤ 1 + t.supertypeCount := by
  have hlength := t.length_walkFrom_le [start] []
  rwa [supertypesLeft_nil, List.length_singleton] at hlength

/-! ### Turns -/

/-- A search under way, with an account of what it has done. -/
structure Search where
  queue : List ClassId
  seen : List ClassId := []
  /-- The entries taken from the queue, in order. -/
  taken : List ClassId := []
  /-- The classes whose supertypes were put into the queue, the latest first. -/
  expanded : List ClassId := []

namespace Search

/-- The first entry is taken, and the others are left. -/
def pop (s : Search) (id : ClassId) (rest : List ClassId) : Search :=
  { s with queue := rest, taken := s.taken ++ [id] }

/-- The first entry is taken for the first time. If it is a class, its supertypes are put at the
end of the queue. -/
def visit (s : Search) (t : ClassTable) (id : ClassId) (rest : List ClassId) : Search :=
  match t.class? id with
  | none => { s.pop id rest with seen := id :: s.seen }
  | some c =>
    { s.pop id rest with
      queue := rest ++ c.supertypes, seen := id :: s.seen, expanded := id :: s.expanded }

variable {s : Search} {id : ClassId} {rest : List ClassId}

theorem queue_visit : (s.visit t id rest).queue = rest ++ t.supertypesOf id := by
  unfold visit
  cases hc : t.class? id with
  | none => rw [supertypesOf_undefined hc, List.append_nil]; rfl
  | some c => rw [supertypesOf_defined hc]

theorem seen_visit : (s.visit t id rest).seen = id :: s.seen := by
  unfold visit
  cases t.class? id <;> rfl

theorem taken_visit : (s.visit t id rest).taken = s.taken ++ [id] := by
  unfold visit
  cases t.class? id <;> rfl

end Search

/-- What comes of a turn. -/
inductive Turn (α : Type) where
  | go (s : Search)
  | stop (s : Search) (answer : α)

def Turn.search {α : Type} : Turn α → Search
  | .go s | .stop s _ => s

/-- One turn of the search for a class among the supertypes of another. -/
def supertypeTurn (t : ClassTable) (target : ClassId) (s : Search) : Turn Bool :=
  match s.queue with
  | [] => .stop s false
  | id :: rest =>
    if id = target then .stop (s.pop id rest) true
    else if id ∈ s.seen then .go (s.pop id rest)
    else .go (s.visit t id rest)

/-- One turn of the search for a method. When nothing is left to take, the root class is asked,
unless it was taken before. -/
def methodTurn (t : ClassTable) (name : String) (s : Search) : Turn (Option MethodDef) :=
  match s.queue with
  | [] =>
    .stop s (if t.wellKnown.object ∈ s.seen then none
      else t.declaredMethod? t.wellKnown.object name)
  | id :: rest =>
    if id ∈ s.seen then .go (s.pop id rest)
    else
      match t.declaredMethod? id name with
      | some m => .stop (s.pop id rest) (some m)
      | none => .go (s.visit t id rest)

/-- Turn after turn, the first search comes to the second and stops there with the answer. -/
inductive Ends {α : Type} (turn : Search → Turn α) : Search → Search → α → Prop where
  | stop {s s' : Search} {answer : α} : turn s = .stop s' answer → Ends turn s s' answer
  | go {s s' s'' : Search} {answer : α} :
      turn s = .go s' → Ends turn s' s'' answer → Ends turn s s'' answer

/-! ### No class is expanded twice -/

/-- The expanded classes are distinct, since each was marked as seen. -/
structure ExpandsOnce (s : Search) : Prop where
  nodup : s.expanded.Nodup
  seen : s.expanded ⊆ s.seen

namespace ExpandsOnce

variable {s : Search}

theorem start (queue : List ClassId) : ExpandsOnce { queue } where
  nodup := List.nodup_nil
  seen := List.nil_subset _

theorem pop (h : ExpandsOnce s) (id : ClassId) (rest : List ClassId) :
    ExpandsOnce (s.pop id rest) where
  nodup := h.nodup
  seen := h.seen

theorem visit (h : ExpandsOnce s) {id : ClassId} (hfresh : id ∉ s.seen) (rest : List ClassId) :
    ExpandsOnce (s.visit t id rest) := by
  unfold Search.visit
  cases t.class? id with
  | none => exact ⟨h.nodup, List.subset_cons_of_subset id h.seen⟩
  | some c =>
      exact ⟨List.nodup_cons.mpr ⟨fun hid => hfresh (h.seen hid), h.nodup⟩,
        List.cons_subset_cons id h.seen⟩

theorem supertypeTurn (h : ExpandsOnce s) (target : ClassId) :
    ExpandsOnce (t.supertypeTurn target s).search := by
  unfold ClassTable.supertypeTurn
  split
  · exact h
  next id rest _ =>
  split
  · exact h.pop id rest
  split
  · exact h.pop id rest
  · next hfresh => exact h.visit hfresh rest

theorem methodTurn (h : ExpandsOnce s) (name : String) :
    ExpandsOnce (t.methodTurn name s).search := by
  unfold ClassTable.methodTurn
  split
  · exact h
  next id rest _ =>
  split
  · exact h.pop id rest
  next hfresh =>
  split
  · exact h.pop id rest
  · exact h.visit hfresh rest

end ExpandsOnce

theorem Ends.expandsOnce {α : Type} {turn : Search → Turn α}
    (hturn : ∀ s, ExpandsOnce s → ExpandsOnce (turn s).search) {s s' : Search} {answer : α}
    (hends : Ends turn s s' answer) (h : ExpandsOnce s) : ExpandsOnce s' := by
  induction hends with
  | @stop s s' answer hstop =>
      have hafter := hturn s h
      rwa [hstop] at hafter
  | @go s s' _ _ hgo _ ih =>
      have hafter := hturn s h
      rw [hgo] at hafter
      exact ih hafter

/-! ### The answers

Both searches are followed along the walk, which takes the same entries and does not stop. -/

/-- The search for a class ends, and it finds what the walk takes. -/
theorem exists_ends_supertypeTurn (t : ClassTable) {target : ClassId} (s : Search)
    (hnot : target ∉ s.seen) :
    ∃ s', Ends (t.supertypeTurn target) s s' ((t.walkFrom s.queue s.seen).contains target) ∧
      s'.taken <+: s.taken ++ t.walkFrom s.queue s.seen := by
  generalize hqueue : s.queue = queue
  generalize hseen : s.seen = seen at hnot ⊢
  induction queue, seen using walk_induction (t := t) generalizing s with
  | nil seen =>
      refine ⟨s, .stop ?_, List.prefix_append _ _⟩
      rw [supertypeTurn, hqueue, walkFrom_nil]
      rfl
  | skip id rest seen hid ih =>
      have hne : id ≠ target := fun heq => hnot (heq ▸ hid)
      have hturn : t.supertypeTurn target s = .go (s.pop id rest) := by
        rw [supertypeTurn, hqueue]
        dsimp only
        rw [if_neg hne, if_pos (hseen ▸ hid)]
      obtain ⟨s', hends, htaken⟩ := ih (s.pop id rest) rfl hseen hnot
      rw [walkFrom_seen hid, List.contains_cons, beq_eq_false_iff_ne.mpr hne.symm, Bool.false_or,
        List.append_cons]
      exact ⟨s', .go hturn hends, htaken⟩
  | take id rest seen hid ih =>
      rw [walkFrom_fresh hid, List.contains_cons, List.append_cons]
      by_cases hne : id = target
      · refine ⟨s.pop id rest, .stop ?_, List.prefix_append _ _⟩
        rw [supertypeTurn, hqueue]
        simp [hne]
      · have hturn : t.supertypeTurn target s = .go (s.visit t id rest) := by
          rw [supertypeTurn, hqueue]
          dsimp only
          rw [if_neg hne, if_neg (hseen ▸ hid)]
        have hnot' : target ∉ id :: seen := by simp [Ne.symm hne, hnot]
        obtain ⟨s', hends, htaken⟩ := ih (s.visit t id rest) Search.queue_visit
          (hseen ▸ Search.seen_visit) hnot'
        rw [Search.taken_visit] at htaken
        rw [beq_eq_false_iff_ne.mpr (Ne.symm hne), Bool.false_or]
        exact ⟨s', .go hturn hends, htaken⟩

/-- What the search for a method answers, given what it has seen and what it will take. -/
def methodAmong (t : ClassTable) (name : String) (seen taken : List ClassId) : Option MethodDef :=
  (taken.findSome? (t.declaredMethod? · name)).or
    (if t.wellKnown.object ∈ seen ∨ t.wellKnown.object ∈ taken then none
      else t.declaredMethod? t.wellKnown.object name)

/-- The search for a method ends, and it finds what the walk takes first, or asks the root class. -/
theorem exists_ends_methodTurn (t : ClassTable) {name : String} (s : Search)
    (hnone : ∀ x ∈ s.seen, t.declaredMethod? x name = none) :
    ∃ s', Ends (t.methodTurn name) s s'
        (t.methodAmong name s.seen (t.walkFrom s.queue s.seen)) ∧
      s'.taken <+: s.taken ++ t.walkFrom s.queue s.seen := by
  generalize hqueue : s.queue = queue
  generalize hseen : s.seen = seen at hnone ⊢
  induction queue, seen using walk_induction (t := t) generalizing s with
  | nil seen =>
      refine ⟨s, .stop ?_, List.prefix_append _ _⟩
      rw [methodTurn, hqueue, walkFrom_nil]
      simp [methodAmong, hseen]
  | skip id rest seen hid ih =>
      have hturn : t.methodTurn name s = .go (s.pop id rest) := by
        rw [methodTurn, hqueue]
        dsimp only
        rw [if_pos (hseen ▸ hid)]
      obtain ⟨s', hends, htaken⟩ := ih (s.pop id rest) rfl hseen hnone
      -- The walk takes `id` once more, which has nothing to find and was seen.
      have hsame : t.methodAmong name seen (id :: t.walkFrom rest seen) =
          t.methodAmong name seen (t.walkFrom rest seen) := by
        rw [methodAmong, methodAmong, List.findSome?_cons, hnone id hid]
        grind
      rw [walkFrom_seen hid, hsame, List.append_cons]
      exact ⟨s', .go hturn hends, htaken⟩
  | take id rest seen hid ih =>
      rw [walkFrom_fresh hid, List.append_cons]
      cases hm : t.declaredMethod? id name with
      | some m =>
          refine ⟨s.pop id rest, .stop ?_, List.prefix_append _ _⟩
          rw [methodTurn, hqueue]
          dsimp only
          rw [if_neg (hseen ▸ hid), hm, methodAmong, List.findSome?_cons, hm]
          rfl
      | none =>
          have hturn : t.methodTurn name s = .go (s.visit t id rest) := by
            rw [methodTurn, hqueue]
            dsimp only
            rw [if_neg (hseen ▸ hid), hm]
          obtain ⟨s', hends, htaken⟩ := ih (s.visit t id rest) Search.queue_visit
            (hseen ▸ Search.seen_visit) (List.forall_mem_cons.mpr ⟨hm, hnone⟩)
          rw [Search.taken_visit] at htaken
          have hsame : t.methodAmong name seen
                (id :: t.walkFrom (rest ++ t.supertypesOf id) (id :: seen)) =
              t.methodAmong name (id :: seen)
                (t.walkFrom (rest ++ t.supertypesOf id) (id :: seen)) := by
            rw [methodAmong, methodAmong, List.findSome?_cons, hm]
            grind
          rw [hsame]
          exact ⟨s', .go hturn hends, htaken⟩

theorem methodAmong_walk (start : ClassId) (name : String) :
    t.methodAmong name [] (t.walk start) = t.method? (.ofClass start) name := by
  rw [methodAmong, method?]
  cases (t.walk start).findSome? (t.declaredMethod? · name) with
  | some m => rfl
  | none => simp

/-- **Both searches end on every table, and soon**: each stops with its answer, has taken no more
than a beginning of the walk and so at most one entry more than the defined classes declare
supertypes, and has put the supertypes of no class into the queue twice. Nothing is assumed of the
supertypes: they may form cycles, repeat, and name classes that nothing defines. -/
theorem searches_end_within_supertypeCount (t : ClassTable) (start target : ClassId)
    (name : String) :
    (t.walk start).length ≤ 1 + t.supertypeCount ∧
    (∃ s, Ends (t.supertypeTurn target) { queue := [start] } s (t.inherits start target) ∧
      s.taken <+: t.walk start ∧ s.taken.length ≤ 1 + t.supertypeCount ∧ s.expanded.Nodup) ∧
    ∃ s, Ends (t.methodTurn name) { queue := [start] } s (t.method? (.ofClass start) name) ∧
      s.taken <+: t.walk start ∧ s.taken.length ≤ 1 + t.supertypeCount ∧ s.expanded.Nodup := by
  have hwalk := t.length_walk_le start
  refine ⟨hwalk, ?_, ?_⟩
  · obtain ⟨s, hends, htaken⟩ := t.exists_ends_supertypeTurn { queue := [start] }
      (List.not_mem_nil (a := target))
    have honce := hends.expandsOnce (fun s h => h.supertypeTurn target) (.start [start])
    exact ⟨s, hends, htaken, Nat.le_trans htaken.length_le hwalk, honce.nodup⟩
  · obtain ⟨s, hends, htaken⟩ := t.exists_ends_methodTurn { queue := [start] }
      (List.forall_mem_nil (t.declaredMethod? · name = none))
    have honce := hends.expandsOnce (fun s h => h.methodTurn name) (.start [start])
    rw [← walk, methodAmong_walk] at hends
    exact ⟨s, hends, htaken, Nat.le_trans htaken.length_le hwalk, honce.nodup⟩

end ClassTable

end JavaChecker
