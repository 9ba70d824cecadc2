import JavaChecker.Document.Basic

/-!
# JavaChecker.Toml.Tree

How the keys and headers of a TOML text build a document.

A table can come into being in three ways: under a header of its own, on the way to another
header, or by a dotted key. Which of them it was decides what may still be added to it. A header
may open a table that so far was only on the way to others, and nothing else that exists already.
A dotted key may pass through every table that has no header of its own, and puts its value into a
table that dotted keys made. Values, and with them inline tables, are closed. No key is given
twice.

Entries stand in the order in which they came to be, except that a table whose header comes after
those of its subtables moves to the place of its header.
-/

namespace JavaChecker.Toml

/-- How a table came into being. -/
inductive Origin where
  /-- Under a header of its own. -/
  | header
  /-- On the way to the header of another table. -/
  | implied
  /-- By a dotted key. -/
  | dotted
deriving DecidableEq, Inhabited

/-- A document in the making. -/
inductive Node where
  /-- A value, to which nothing can be added. -/
  | leaf (value : Document)
  | table (origin : Origin) (entries : List (String × Node))
  /-- Tables under headers with double brackets, each with its entries. -/
  | tables (elements : List (List (String × Node)))
deriving Inhabited

/-- The entries of a table in the making. -/
abbrev Entries := List (String × Node)

namespace Entries

/-- The node under a key. -/
def find? (es : Entries) (key : String) : Option Node :=
  (List.find? (·.1 == key) es).map Prod.snd

/-- Put another node under a key that is there. -/
def replace (es : Entries) (key : String) (node : Node) : Entries :=
  es.map fun e => if e.1 == key then (key, node) else e

/-- Take away a key. -/
def erase (es : Entries) (key : String) : Entries := es.filter (·.1 != key)

/-- Add a key at the end. -/
def add (es : Entries) (key : String) (node : Node) : Entries := es ++ [(key, node)]

end Entries

/-- Change the last of several tables. -/
def changeLast (change : Entries → Option Entries) (elements : List Entries) :
    Option (List Entries) :=
  match elements.getLast? with
  | none => none
  | some es => (change es).map fun es => elements.dropLast ++ [es]

/-! ## Values under keys -/

/-- Give a value to a key, reached over a path of dotted keys. `direct` tells whether the table
itself may get the value when the path is at its end. -/
def assign (direct : Bool) : List String → String → Document → Entries → Option Entries
  | [], key, value, es =>
    if direct && (es.find? key).isNone then some (es.add key (.leaf value)) else none
  | k :: path, key, value, es =>
    match es.find? k with
    | none => (assign true path key value []).map fun sub => es.add k (.table .dotted sub)
    | some (.leaf _) => none
    | some (.table .header _) => none
    | some (.table origin sub) =>
      (assign (origin = .dotted) path key value sub).map fun sub =>
        es.replace k (.table origin sub)
    | some (.tables elements) =>
      (changeLast (assign false path key value) elements).map fun elements =>
        es.replace k (.tables elements)

/-- Values and the dotted keys they are given to. -/
abbrev Pairs := List (List String × Document)

/-- Give values to keys, one after the other. -/
def assignAll : Pairs → Entries → Option Entries
  | [], es => some es
  | (keys, value) :: pairs, es =>
    match keys.getLast? with
    | none => none
    | some key => (assign true keys.dropLast key value es).bind (assignAll pairs)

/-! ## Tables under headers -/

/-- Change the table at the end of a path, and make the tables that are missing on the way. -/
def changeAt (change : Entries → Option Entries) : List String → Entries → Option Entries
  | [], es => change es
  | k :: path, es =>
    match es.find? k with
    | none => (changeAt change path []).map fun sub => es.add k (.table .implied sub)
    | some (.leaf _) => none
    | some (.table origin sub) =>
      (changeAt change path sub).map fun sub => es.replace k (.table origin sub)
    | some (.tables elements) =>
      (changeLast (changeAt change path) elements).map fun elements =>
        es.replace k (.tables elements)

/-- Open a table under its own header and fill it. -/
def openTable (key : String) (pairs : Pairs) (es : Entries) : Option Entries :=
  match es.find? key with
  | none => (assignAll pairs []).map fun sub => es.add key (.table .header sub)
  | some (.table .implied sub) =>
    (assignAll pairs sub).map fun sub => (es.erase key).add key (.table .header sub)
  | some _ => none

/-- Add one more table under a header with double brackets and fill it. -/
def addElement (key : String) (pairs : Pairs) (es : Entries) : Option Entries :=
  match es.find? key with
  | none => (assignAll pairs []).map fun sub => es.add key (.tables [sub])
  | some (.tables elements) =>
    (assignAll pairs []).map fun sub => es.replace key (.tables (elements ++ [sub]))
  | some _ => none

/-- A header, or the beginning of the text, which needs none. -/
inductive Header where
  | root
  | table (keys : List String)
  | element (keys : List String)
deriving DecidableEq, Inhabited

/-- A header and the values under it. -/
structure Section where
  header : Header
  pairs : Pairs

/-- Add a section to a document in the making. -/
def Section.addTo (s : Section) (es : Entries) : Option Entries :=
  match s.header with
  | .root => assignAll s.pairs es
  | .table keys => do
    let key ← keys.getLast?
    changeAt (openTable key s.pairs) keys.dropLast es
  | .element keys => do
    let key ← keys.getLast?
    changeAt (addElement key s.pairs) keys.dropLast es

/-! ## The finished document -/

mutual

/-- The document that a node stands for. -/
def Node.document : Node → Document
  | .leaf value => value
  | .table _ entries => .table (entriesDocuments entries)
  | .tables elements => .array .headed (elementsDocuments elements)

/-- The documents of the entries of a table. -/
def entriesDocuments : List (String × Node) → List (String × Document)
  | [] => []
  | (key, node) :: rest => (key, node.document) :: entriesDocuments rest

/-- The documents of several tables. -/
def elementsDocuments : List (List (String × Node)) → List Document
  | [] => []
  | es :: rest => .table (entriesDocuments es) :: elementsDocuments rest

end

/-- The document of all sections of a text. -/
def assemble? (sections : List Section) : Option Document := do
  let es ← sections.foldlM (fun es s => s.addTo es) []
  some (.table (entriesDocuments es))

end JavaChecker.Toml
