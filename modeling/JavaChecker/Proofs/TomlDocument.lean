import JavaChecker.Proofs.Spelling
import JavaChecker.Toml.Reader

/-!
# JavaChecker.Proofs.TomlDocument

What the documents of TOML texts look like: a table at the root, no key twice in any table, no
`null`, and integers of 64 bits only (`parse?_wellBuilt`).

Values are read off the text, which bounds the scalars. Tables come from three sources, headers,
dotted keys and inline tables, and all of them go through the operations on a document in the
making. `Entries.Sound` is the invariant of those operations: each adds a key only where none is,
or changes the node under a key that is there.
-/

namespace JavaChecker

open Text (Reader)

/-! ### What readers yield -/

namespace Text.Reader

variable {α : Type}

/-- Whatever the reader reads satisfies the condition. -/
def Yields (p : Reader α) (P : α → Prop) : Prop :=
  ∀ cs a rest, p cs = some (a, rest) → P a

theorem Yields.orElse {p q : Reader α} {P : α → Prop} (hp : Yields p P) (hq : Yields q P) :
    Yields (Reader.orElse p q) P := by
  intro cs a rest h
  simp only [Reader.orElse] at h
  split at h
  · next found hfound =>
      cases h
      exact hp cs a rest hfound
  · exact hq cs a rest h

theorem Yields.manyUpTo {p : Reader α} {P : α → Prop} (hp : Yields p P) (n : Nat)
    (cs : List Char) : ∀ a ∈ (Reader.manyUpTo p n cs).1, P a := by
  induction n generalizing cs with
  | zero =>
      intro a ha
      cases ha
  | succ n ih =>
      intro a ha
      simp only [Reader.manyUpTo] at ha
      split at ha
      · cases ha
      · next b rest hb =>
          rcases List.mem_cons.mp ha with rfl | ha
          · exact hp cs a rest hb
          · exact ih rest a ha

end Text.Reader

namespace Toml

open Text.Reader (Yields)

/-! ### Scalars -/

/-- Scalars that TOML can write. -/
def Storable : Document → Prop
  | .null => False
  | .integer n => -(Nat.pow 2 63 : Nat) ≤ n ∧ n < (Nat.pow 2 63 : Nat)
  | _ => True

/-- The document is one that a TOML text can stand for, or a part of one. -/
abbrev WellBuilt (d : Document) : Prop := d.MadeOf Storable

theorem wellBuilt_of_integer? {negative : Bool} {n : Nat} {d : Document}
    (h : integer? negative n = some d) : WellBuilt d := by
  unfold integer? at h
  split at h
  · split at h
    · next hn =>
        cases h
        refine .scalar rfl ⟨?_, ?_⟩
        · omega
        · have : 0 < Nat.pow 2 63 := by decide
          omega
    · cases h
  · split at h
    · next hn =>
        cases h
        refine .scalar rfl ⟨?_, ?_⟩
        · omega
        · omega
    · cases h

theorem yields_basedInteger (base : Nat) : Yields (basedInteger base) WellBuilt := by
  intro cs d rest h
  obtain ⟨⟨ds, rest'⟩, _, h⟩ := Option.bind_eq_some_iff.mp h
  obtain ⟨d', hd', heq⟩ := Option.map_eq_some_iff.mp h
  cases heq
  exact wellBuilt_of_integer? hd'

theorem yields_decimalInteger : Yields decimalInteger WellBuilt := by
  intro cs d rest h
  obtain ⟨⟨ds, rest'⟩, _, h⟩ := Option.bind_eq_some_iff.mp h
  obtain ⟨d', hd', heq⟩ := Option.map_eq_some_iff.mp h
  cases heq
  exact wellBuilt_of_integer? hd'

theorem yields_integer : Yields integer WellBuilt := by
  intro cs d rest h
  unfold integer at h
  split at h
  · exact yields_basedInteger 16 _ _ _ h
  · exact yields_basedInteger 8 _ _ _ h
  · exact yields_basedInteger 2 _ _ _ h
  · exact yields_decimalInteger _ _ _ h

theorem yields_decimalFloat : Yields decimalFloat WellBuilt := by
  intro cs d rest h
  obtain ⟨⟨whole, rest'⟩, _, h⟩ := Option.bind_eq_some_iff.mp h
  dsimp only at h
  split at h
  · cases h
  · generalize Binary64.ofDecimal _ _ _ = x at h
    split at h
    · cases h
    · cases h
      exact .scalar rfl trivial

theorem yields_specialFloat : Yields specialFloat WellBuilt := by
  intro cs d rest h
  unfold specialFloat at h
  split at h
  · cases h
    exact .scalar rfl trivial
  · cases h
    exact .scalar rfl trivial
  · cases h

theorem yields_datetime : Yields datetime WellBuilt := by
  intro cs d rest h
  obtain ⟨⟨_, rest'⟩, _, h⟩ := Option.bind_eq_some_iff.mp h
  cases h
  exact .scalar rfl trivial

theorem yields_scalar : Yields scalar WellBuilt := by
  intro cs d rest h
  cases cs with
  | nil => cases h
  | cons c cs =>
      rw [scalar] at h
      split at h
      · obtain ⟨_, _, heq⟩ := Option.map_eq_some_iff.mp h
        cases heq
        exact .scalar rfl trivial
      · split at h
        · obtain ⟨_, _, heq⟩ := Option.map_eq_some_iff.mp h
          cases heq
          exact .scalar rfl trivial
        · split at h
          · obtain ⟨_, _, heq⟩ := Option.map_eq_some_iff.mp h
            cases heq
            exact .scalar rfl trivial
          · exact (yields_datetime.orElse
              ((yields_decimalFloat.orElse yields_specialFloat).orElse yields_integer)) _ _ _ h

/-! ### Documents in the making -/

/-- No table of the node has a key twice, and its values are well built. -/
inductive Node.Sound : Node → Prop where
  | leaf {value : Document} : WellBuilt value → Sound (.leaf value)
  | table {origin : Origin} {entries : List (String × Node)} :
      (entries.map Prod.fst).Nodup → (∀ e ∈ entries, Sound e.2) → Sound (.table origin entries)
  | tables {elements : List (List (String × Node))} :
      (∀ es ∈ elements, (es.map Prod.fst).Nodup) → (∀ es ∈ elements, ∀ e ∈ es, Sound e.2) →
      Sound (.tables elements)

/-- No key stands twice among the entries, and their nodes are sound. -/
structure Entries.Sound (es : Entries) : Prop where
  keys : (es.map Prod.fst).Nodup
  nodes : ∀ e ∈ es, e.2.Sound

/-- Values that are well built, under whatever keys. -/
abbrev Pairs.Sound (pairs : Pairs) : Prop := ∀ p ∈ pairs, WellBuilt p.2

theorem Pairs.sound_nil : Pairs.Sound [] := fun _ hp => nomatch hp

theorem Node.Sound.of_entries {origin : Origin} {es : Entries} (h : es.Sound) :
    (Node.table origin es).Sound :=
  .table h.keys h.nodes

theorem Node.Sound.of_elements {elements : List Entries} (h : ∀ es ∈ elements, es.Sound) :
    (Node.tables elements).Sound :=
  .tables (fun es hes => (h es hes).keys) fun es hes => (h es hes).nodes

theorem Node.Sound.entries {origin : Origin} {es : Entries} (h : (Node.table origin es).Sound) :
    es.Sound := by
  cases h with
  | table hkeys hnodes => exact ⟨hkeys, hnodes⟩

theorem Node.Sound.elements {elements : List Entries} (h : (Node.tables elements).Sound) :
    ∀ es ∈ elements, es.Sound := by
  cases h with
  | tables hkeys hnodes => exact fun es hes => ⟨hkeys es hes, hnodes es hes⟩

namespace Entries

theorem sound_nil : Sound [] := ⟨List.nodup_nil, fun _ he => nomatch he⟩

theorem find?_eq_none_iff {es : Entries} {key : String} :
    es.find? key = none ↔ key ∉ es.map Prod.fst := by
  simp only [find?, Option.map_eq_none_iff, List.find?_eq_none, List.mem_map, beq_iff_eq]
  exact ⟨fun h ⟨e, he, hkey⟩ => h e he hkey, fun h e he hkey => h ⟨e, he, hkey⟩⟩

theorem Sound.of_find? {es : Entries} (h : es.Sound) {key : String} {node : Node}
    (hfind : es.find? key = some node) : node.Sound := by
  obtain ⟨e, he, rfl⟩ := Option.map_eq_some_iff.mp hfind
  exact h.nodes e (List.mem_of_find?_eq_some he)

/-- A key may be added where there is none. -/
theorem Sound.add {es : Entries} (h : es.Sound) {key : String} {node : Node}
    (hnew : es.find? key = none) (hnode : node.Sound) : (es.add key node).Sound where
  keys := by
    rw [Entries.add, List.map_append, List.nodup_append]
    refine ⟨h.keys, List.nodup_singleton _, ?_⟩
    intro a ha b hb hab
    obtain rfl := List.mem_singleton.mp hb
    exact find?_eq_none_iff.mp hnew (hab ▸ ha)
  nodes := by
    intro e he
    rcases List.mem_append.mp he with he | he
    · exact h.nodes e he
    · obtain rfl := List.mem_singleton.mp he
      exact hnode

/-- The node under a key may be replaced. -/
theorem Sound.replace {es : Entries} (h : es.Sound) {key : String} {node : Node}
    (hnode : node.Sound) : (es.replace key node).Sound where
  keys := by
    have hkeys : (es.replace key node).map Prod.fst = es.map Prod.fst := by
      rw [Entries.replace, List.map_map]
      refine List.map_congr_left fun e _ => ?_
      by_cases he : e.1 = key
      · simp [he]
      · simp [he]
    exact hkeys ▸ h.keys
  nodes := by
    intro e he
    obtain ⟨e', he', rfl⟩ := List.mem_map.mp he
    split
    · exact hnode
    · exact h.nodes e' he'

theorem Sound.erase {es : Entries} (h : es.Sound) (key : String) : (es.erase key).Sound where
  keys := h.keys.sublist (List.filter_sublist.map _)
  nodes := fun e he => h.nodes e (List.mem_of_mem_filter he)

theorem find?_erase (es : Entries) (key : String) : (es.erase key).find? key = none := by
  rw [find?_eq_none_iff]
  intro hkey
  obtain ⟨e, he, hname⟩ := List.mem_map.mp hkey
  simpa [hname] using List.of_mem_filter he

end Entries

/-! ### What the operations keep -/

/-- The change takes sound entries to sound entries. -/
def Keeps (change : Entries → Option Entries) : Prop :=
  ∀ es es', es.Sound → change es = some es' → es'.Sound

theorem sound_of_changeLast {change : Entries → Option Entries} (hchange : Keeps change)
    {elements elements' : List Entries} (helements : ∀ es ∈ elements, es.Sound)
    (h : changeLast change elements = some elements') : ∀ es ∈ elements', es.Sound := by
  unfold changeLast at h
  split at h
  · cases h
  · next last hlast =>
      obtain ⟨es', hes', rfl⟩ := Option.map_eq_some_iff.mp h
      intro es hes
      rcases List.mem_append.mp hes with hes | hes
      · exact helements es (List.dropLast_subset _ hes)
      · obtain rfl := List.mem_singleton.mp hes
        exact hchange last es (helements last (List.mem_of_getLast? hlast)) hes'

/-- The induction is on the path, for every table it may start in. -/
theorem keeps_assign (direct : Bool) (path : List String) (key : String) {value : Document}
    (hvalue : WellBuilt value) : Keeps (assign direct path key value) := by
  induction path generalizing direct with
  | nil =>
      intro es es' hes h
      rw [assign] at h
      split at h
      · next hfree =>
          cases h
          simp only [Bool.and_eq_true, Option.isNone_iff_eq_none] at hfree
          exact hes.add hfree.2 (.leaf hvalue)
      · cases h
  | cons k path ih =>
      intro es es' hes h
      rw [assign] at h
      split at h
      · next hnew =>
          obtain ⟨sub, hsub, rfl⟩ := Option.map_eq_some_iff.mp h
          exact hes.add hnew (.of_entries (ih true [] sub Entries.sound_nil hsub))
      · cases h
      · cases h
      · next origin old _ hold =>
          obtain ⟨sub, hsub, rfl⟩ := Option.map_eq_some_iff.mp h
          exact hes.replace (.of_entries (ih _ old sub (hes.of_find? hold).entries hsub))
      · next elements hold =>
          obtain ⟨elements', helements', rfl⟩ := Option.map_eq_some_iff.mp h
          exact hes.replace (.of_elements
            (sound_of_changeLast (ih false) (hes.of_find? hold).elements helements'))

theorem keeps_assignAll {pairs : Pairs} (hpairs : pairs.Sound) : Keeps (assignAll pairs) := by
  induction pairs with
  | nil =>
      intro es es' hes h
      cases h
      exact hes
  | cons p pairs ih =>
      intro es es' hes h
      obtain ⟨keys, value⟩ := p
      rw [assignAll] at h
      split at h
      · cases h
      · next key _ =>
          obtain ⟨mid, hmid, h⟩ := Option.bind_eq_some_iff.mp h
          have hvalue : WellBuilt value := hpairs _ (List.mem_cons_self ..)
          have hsound : mid.Sound := keeps_assign true _ key hvalue es mid hes hmid
          exact ih (fun p hp => hpairs p (List.mem_cons_of_mem _ hp)) mid es' hsound h

theorem keeps_changeAt {change : Entries → Option Entries} (hchange : Keeps change)
    (path : List String) : Keeps (changeAt change path) := by
  induction path with
  | nil => exact hchange
  | cons k path ih =>
      intro es es' hes h
      rw [changeAt] at h
      split at h
      · next hnew =>
          obtain ⟨sub, hsub, rfl⟩ := Option.map_eq_some_iff.mp h
          exact hes.add hnew (.of_entries (ih [] sub Entries.sound_nil hsub))
      · cases h
      · next origin old hold =>
          obtain ⟨sub, hsub, rfl⟩ := Option.map_eq_some_iff.mp h
          exact hes.replace (.of_entries (ih old sub (hes.of_find? hold).entries hsub))
      · next elements hold =>
          obtain ⟨elements', helements', rfl⟩ := Option.map_eq_some_iff.mp h
          exact hes.replace (.of_elements
            (sound_of_changeLast ih (hes.of_find? hold).elements helements'))

theorem keeps_openTable (key : String) {pairs : Pairs} (hpairs : pairs.Sound) :
    Keeps (openTable key pairs) := by
  intro es es' hes h
  unfold openTable at h
  split at h
  · next hnew =>
      obtain ⟨sub, hsub, rfl⟩ := Option.map_eq_some_iff.mp h
      exact hes.add hnew (.of_entries (keeps_assignAll hpairs [] sub Entries.sound_nil hsub))
  · next old hold =>
      obtain ⟨sub, hsub, rfl⟩ := Option.map_eq_some_iff.mp h
      refine (hes.erase key).add (Entries.find?_erase es key) (.of_entries ?_)
      exact keeps_assignAll hpairs old sub (hes.of_find? hold).entries hsub
  · cases h

theorem keeps_addElement (key : String) {pairs : Pairs} (hpairs : pairs.Sound) :
    Keeps (addElement key pairs) := by
  intro es es' hes h
  unfold addElement at h
  split at h
  · next hnew =>
      obtain ⟨sub, hsub, rfl⟩ := Option.map_eq_some_iff.mp h
      refine hes.add hnew (.of_elements fun es hes => ?_)
      obtain rfl := List.mem_singleton.mp hes
      exact keeps_assignAll hpairs [] es Entries.sound_nil hsub
  · next elements hold =>
      obtain ⟨sub, hsub, rfl⟩ := Option.map_eq_some_iff.mp h
      refine hes.replace (.of_elements fun es hmem => ?_)
      rcases List.mem_append.mp hmem with hmem | hmem
      · exact (hes.of_find? hold).elements es hmem
      · obtain rfl := List.mem_singleton.mp hmem
        exact keeps_assignAll hpairs [] es Entries.sound_nil hsub
  · cases h

theorem keeps_addTo {s : Section} (hpairs : s.pairs.Sound) : Keeps s.addTo := by
  intro es es' hes h
  unfold Section.addTo at h
  split at h
  · exact keeps_assignAll hpairs es es' hes h
  · obtain ⟨key, _, h⟩ := Option.bind_eq_some_iff.mp h
    exact keeps_changeAt (keeps_openTable key hpairs) _ es es' hes h
  · obtain ⟨key, _, h⟩ := Option.bind_eq_some_iff.mp h
    exact keeps_changeAt (keeps_addElement key hpairs) _ es es' hes h

/-! ### The finished document -/

theorem entriesDocuments_eq (es : Entries) :
    entriesDocuments es = es.map fun e => (e.1, e.2.document) := by
  induction es with
  | nil => rfl
  | cons e es ih =>
      rw [entriesDocuments, ih]
      rfl

theorem elementsDocuments_eq (elements : List Entries) :
    elementsDocuments elements = elements.map fun es => .table (entriesDocuments es) := by
  induction elements with
  | nil => rfl
  | cons es elements ih =>
      rw [elementsDocuments, ih]
      rfl

theorem wellBuilt_table {es : Entries} (hkeys : (es.map Prod.fst).Nodup)
    (hnodes : ∀ e ∈ es, WellBuilt e.2.document) : WellBuilt (.table (entriesDocuments es)) := by
  rw [entriesDocuments_eq]
  refine .table ?_ fun e he => ?_
  · rw [List.map_map]
    exact hkeys
  · obtain ⟨e', he', rfl⟩ := List.mem_map.mp he
    exact hnodes e' he'

theorem Node.Sound.wellBuilt {node : Node} (h : node.Sound) : WellBuilt node.document := by
  induction h with
  | leaf hvalue => exact hvalue
  | table hkeys _ ih => exact wellBuilt_table hkeys ih
  | @tables elements hkeys _ ih =>
      rw [Node.document, elementsDocuments_eq]
      refine .array fun d hd => ?_
      obtain ⟨es, hes, rfl⟩ := List.mem_map.mp hd
      exact wellBuilt_table (hkeys es hes) (ih es hes)

theorem Entries.Sound.wellBuilt {es : Entries} (h : es.Sound) :
    WellBuilt (.table (entriesDocuments es)) :=
  wellBuilt_table h.keys fun e he => (h.nodes e he).wellBuilt

/-! ### Values and lines -/

theorem yields_pair {value : Reader Document} (hvalue : Yields value WellBuilt) :
    Yields (pair value) fun p => WellBuilt p.2 := by
  intro cs p rest h
  obtain ⟨⟨keys, rest'⟩, _, h⟩ := Option.bind_eq_some_iff.mp h
  obtain ⟨⟨_, rest'⟩, _, h⟩ := Option.bind_eq_some_iff.mp h
  obtain ⟨⟨d, rest'⟩, hd, h⟩ := Option.bind_eq_some_iff.mp h
  cases h
  exact hvalue _ _ _ hd

theorem yields_inlineBody {value : Reader Document} (hvalue : Yields value WellBuilt) :
    Yields (inlineBody value) Pairs.Sound := by
  have hnext : Yields (nextPair value) fun p => WellBuilt p.2 := by
    intro cs p rest h
    unfold nextPair at h
    split at h
    · exact yields_pair hvalue _ _ _ h
    · cases h
  intro cs pairs rest h
  unfold inlineBody at h
  split at h
  · cases h
    exact Pairs.sound_nil
  · obtain ⟨⟨first, rest'⟩, hfirst, h⟩ := Option.bind_eq_some_iff.mp h
    dsimp only at h
    split at h
    · cases h
      intro p hp
      rcases List.mem_cons.mp hp with rfl | hp
      · exact yields_pair hvalue _ _ _ hfirst
      · exact hnext.manyUpTo _ _ p hp
    · cases h

theorem yields_arrayBody {value : Reader Document} (hvalue : Yields value WellBuilt) :
    Yields (arrayBody value) fun ds => ∀ d ∈ ds, WellBuilt d := by
  have helement : Yields (element value) WellBuilt := by
    intro cs d rest h
    obtain ⟨⟨d', rest'⟩, hd', heq⟩ := Option.map_eq_some_iff.mp h
    cases heq
    exact hvalue _ _ _ hd'
  have hnext : Yields (nextElement value) WellBuilt := by
    intro cs d rest h
    unfold nextElement at h
    split at h
    · exact helement _ _ _ h
    · cases h
  intro cs ds rest h
  unfold arrayBody at h
  split at h
  · cases h
    exact fun d hd => nomatch hd
  · obtain ⟨⟨first, rest'⟩, hfirst, h⟩ := Option.bind_eq_some_iff.mp h
    dsimp only at h
    -- With and without a comma at the end, the elements are the same.
    have hall : ∀ d ∈ first :: (Reader.many (nextElement value) rest').1, WellBuilt d := by
      intro d hd
      rcases List.mem_cons.mp hd with rfl | hd
      · exact helement _ _ _ hfirst
      · exact hnext.manyUpTo _ _ d hd
    split at h
    · cases h
      exact hall
    · split at h
      · cases h
        exact hall
      · cases h
    · cases h

/-- The induction is on the depth to which values may nest. -/
theorem yields_value (depth : Nat) : Yields (value depth) WellBuilt := by
  induction depth with
  | zero => exact yields_scalar
  | succ depth ih =>
      intro cs d rest h
      unfold value at h
      split at h
      · obtain ⟨⟨ds, rest'⟩, hds, heq⟩ := Option.map_eq_some_iff.mp h
        cases heq
        exact .array (yields_arrayBody ih _ _ _ hds)
      · obtain ⟨⟨pairs, rest'⟩, hpairs, h⟩ := Option.bind_eq_some_iff.mp h
        obtain ⟨es, hes, h⟩ := Option.bind_eq_some_iff.mp h
        cases h
        have hsound : es.Sound :=
          keeps_assignAll (yields_inlineBody ih _ _ _ hpairs) [] es Entries.sound_nil hes
        exact hsound.wellBuilt
      · exact yields_scalar _ _ _ h

/-- The value that a line gives, if it gives one, is well built. -/
def Statement.Sound : Statement → Prop
  | .pair _ value => WellBuilt value
  | .nothing | .header _ => True

theorem yields_line : Yields line Statement.Sound := by
  intro cs s rest h
  obtain ⟨⟨s', rest'⟩, hs, h⟩ := Option.bind_eq_some_iff.mp h
  obtain ⟨⟨_, rest'⟩, _, h⟩ := Option.bind_eq_some_iff.mp h
  cases h
  unfold statement at hs
  split at hs
  · obtain ⟨_, _, hs⟩ := Option.bind_eq_some_iff.mp hs
    obtain ⟨_, _, hs⟩ := Option.bind_eq_some_iff.mp hs
    cases hs
    trivial
  · obtain ⟨_, _, hs⟩ := Option.bind_eq_some_iff.mp hs
    obtain ⟨_, _, hs⟩ := Option.bind_eq_some_iff.mp hs
    cases hs
    trivial
  · cases hs
    trivial
  · split at hs
    · cases hs
      trivial
    · obtain ⟨⟨⟨keys, d⟩, rest'⟩, hd, heq⟩ := Option.map_eq_some_iff.mp hs
      cases heq
      exact yields_pair (yields_value maxDepth) _ _ _ hd

theorem sound_of_linesUpTo {bound : Nat} {cs : List Char} {statements : List Statement}
    (h : linesUpTo bound cs = some statements) : ∀ s ∈ statements, s.Sound := by
  induction bound generalizing cs statements with
  | zero =>
      cases cs with
      | nil =>
          cases h
          exact fun s hs => nomatch hs
      | cons => cases h
  | succ bound ih =>
      cases cs with
      | nil =>
          cases h
          exact fun s hs => nomatch hs
      | cons c cs =>
          rw [linesUpTo.eq_3 _ _ (by simp)] at h
          obtain ⟨⟨s, rest⟩, hs, h⟩ := Option.bind_eq_some_iff.mp h
          obtain ⟨others, hothers, rfl⟩ := Option.map_eq_some_iff.mp h
          intro s' hs'
          rcases List.mem_cons.mp hs' with rfl | hs'
          · exact yields_line _ _ _ hs
          · exact ih hothers s' hs'

theorem sound_sectionsFrom (header : Header) {pairs : Pairs} {statements : List Statement}
    (hpairs : pairs.Sound) (hstatements : ∀ s ∈ statements, s.Sound) :
    ∀ s ∈ sectionsFrom header pairs statements, s.pairs.Sound := by
  induction statements generalizing header pairs with
  | nil =>
      intro s hs
      obtain rfl := List.mem_singleton.mp hs
      exact hpairs
  | cons statement rest ih =>
      have hrest : ∀ s ∈ rest, s.Sound := fun s hs => hstatements s (List.mem_cons_of_mem _ hs)
      cases statement with
      | nothing => exact ih header hpairs hrest
      | pair keys d =>
          refine ih header ?_ hrest
          intro p hp
          rcases List.mem_append.mp hp with hp | hp
          · exact hpairs p hp
          · obtain rfl := List.mem_singleton.mp hp
            exact hstatements _ (List.mem_cons_self ..)
      | header h =>
          intro s hs
          rcases List.mem_cons.mp hs with rfl | hs
          · exact hpairs
          · exact ih h Pairs.sound_nil hrest s hs

theorem sound_of_foldlM {sections : List Section} (hsections : ∀ s ∈ sections, s.pairs.Sound) :
    Keeps fun es => sections.foldlM (fun es s => s.addTo es) es := by
  induction sections with
  | nil =>
      intro es es' hes h
      cases h
      exact hes
  | cons s sections ih =>
      intro es es' hes h
      simp only [List.foldlM_cons] at h
      obtain ⟨mid, hmid, h⟩ := Option.bind_eq_some_iff.mp h
      have hsound : mid.Sound :=
        keeps_addTo (hsections s (List.mem_cons_self ..)) es mid hes hmid
      exact ih (fun s hs => hsections s (List.mem_cons_of_mem _ hs)) mid es' hsound h

/-- **The document of a TOML text** is a table, no table in it has a key twice, it holds no `null`,
and its integers have 64 bits. -/
theorem parse?_wellBuilt {text : String} {d : Document} (h : parse? text = some d) :
    WellBuilt d ∧ ∃ entries, d = .table entries := by
  obtain ⟨statements, hstatements, h⟩ := Option.bind_eq_some_iff.mp h
  obtain ⟨es, hes, h⟩ := Option.bind_eq_some_iff.mp h
  cases h
  have hsections := sound_sectionsFrom .root Pairs.sound_nil (sound_of_linesUpTo hstatements)
  have hsound : Entries.Sound es := sound_of_foldlM hsections [] es Entries.sound_nil hes
  exact ⟨hsound.wellBuilt, _, rfl⟩

end Toml

end JavaChecker
