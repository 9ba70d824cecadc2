import JavaChecker.Toml.Datetime
import JavaChecker.Toml.Number
import JavaChecker.Toml.Text
import JavaChecker.Toml.Tree

/-!
# JavaChecker.Toml.Reader

TOML texts as documents. A text is read into sections, each a header with the values under it, and
`Tree` puts them together; what cannot be read and what cannot be put together is refused alike.
-/

namespace JavaChecker.Toml

open Text (Reader)

/-- How deep arrays and inline tables may nest. -/
def maxDepth : Nat := 79

/-- Dotted keys have fewer parts than this. -/
def maxKeyParts : Nat := 80

/-! ## Keys -/

/-- Whether a key may hold the character without quotes. -/
def isBareKey (c : Char) : Bool := c.isAlphanum || c = '_' || c = '-'

/-- A part of a key. -/
def simpleKey : Reader String := fun cs =>
  match Reader.run1 isBareKey cs with
  | some (chars, rest) => some (String.ofList chars, rest)
  | none => shortString cs

/-- A further part of a dotted key, with the point before it. -/
def nextKey : Reader String := fun cs =>
  match skipBlank cs with
  | '.' :: rest => simpleKey (skipBlank rest)
  | _ => none

/-- A key, dotted or not, and the blanks around it. -/
def keyPath : Reader (List String) := fun cs => do
  let (first, rest) ← simpleKey (skipBlank cs)
  let (others, rest) := Reader.many nextKey rest
  if others.length + 1 < maxKeyParts then some (first :: others, skipBlank rest) else none

/-! ## Values -/

/-- A value that holds no other values. -/
def scalar : Reader Document
  | [] => none
  | c :: rest =>
    if c = '"' || c = apostrophe then (string (c :: rest)).map fun (s, r) => (.string s, r)
    else if c = 't' then (Reader.word ['r', 'u', 'e'] rest).map fun (_, r) => (.boolean true, r)
    else if c = 'f' then
      (Reader.word ['a', 'l', 's', 'e'] rest).map fun (_, r) => (.boolean false, r)
    else Reader.orElse datetime (Reader.orElse float integer) (c :: rest)

/-- An element of an array, with what stands around it. -/
def element (value : Reader Document) : Reader Document := fun cs =>
  (value (skipGap cs)).map fun (d, rest) => (d, skipGap rest)

/-- An element after a comma. -/
def nextElement (value : Reader Document) : Reader Document
  | ',' :: rest => element value rest
  | _ => none

/-- An array after its opening bracket. A comma may follow the last element. -/
def arrayBody (value : Reader Document) : Reader (List Document) := fun cs =>
  match skipGap cs with
  | ']' :: rest => some ([], rest)
  | cs => do
    let (first, rest) ← element value cs
    let (others, rest) := Reader.many (nextElement value) rest
    match rest with
    | ']' :: rest => some (first :: others, rest)
    | ',' :: rest =>
      match skipGap rest with
      | ']' :: rest => some (first :: others, rest)
      | _ => none
    | _ => none

/-- A key, an equals sign and a value, with the blanks around them. -/
def pair (value : Reader Document) : Reader (List String × Document) := fun cs => do
  let (keys, rest) ← keyPath cs
  let (_, rest) ← Reader.word ['='] rest
  let (d, rest) ← value (skipBlank rest)
  some ((keys, d), skipBlank rest)

/-- A pair after a comma. -/
def nextPair (value : Reader Document) : Reader (List String × Document)
  | ',' :: rest => pair value rest
  | _ => none

/-- The pairs of an inline table after its opening brace. -/
def inlineBody (value : Reader Document) : Reader Pairs := fun cs =>
  match skipBlank cs with
  | '\x7d' :: rest => some ([], rest)
  | cs => do
    let (first, rest) ← pair value cs
    let (others, rest) := Reader.many (nextPair value) rest
    match rest with
    | '\x7d' :: rest => some (first :: others, rest)
    | _ => none

/-- A value with arrays and inline tables nested at most as deep as given. -/
def value : Nat → Reader Document
  | 0 => scalar
  | depth + 1 => fun cs =>
    match cs with
    | '[' :: rest => (arrayBody (value depth) rest).map fun (ds, r) => (.list ds, r)
    | '\x7b' :: rest => do
      let (pairs, rest) ← inlineBody (value depth) rest
      let es ← assignAll pairs []
      some (.table (entriesDocuments es), rest)
    | cs => scalar cs

/-! ## Lines and sections -/

/-- What a line says. -/
inductive Statement where
  | nothing
  | header (h : Header)
  | pair (keys : List String) (value : Document)

/-- A line up to the comment or line break that ends it. -/
def statement : Reader Statement := fun cs =>
  match skipBlank cs with
  | '[' :: '[' :: rest => do
    let (keys, rest) ← keyPath rest
    let (_, rest) ← Reader.word [']', ']'] rest
    some (.header (.element keys), rest)
  | '[' :: rest => do
    let (keys, rest) ← keyPath rest
    let (_, rest) ← Reader.word [']'] rest
    some (.header (.table keys), rest)
  | [] => some (.nothing, [])
  | c :: rest =>
    if c = '#' || c = '\n' || c = '\r' then some (.nothing, c :: rest)
    else (pair (value maxDepth) (c :: rest)).map fun ((keys, d), r) => (.pair keys d, r)

/-- A line. -/
def line : Reader Statement := fun cs => do
  let (s, rest) ← statement cs
  let (_, rest) ← lineEnd rest
  some (s, rest)

/-- All lines of a text; `bound` is at least their number. -/
def linesUpTo : Nat → List Char → Option (List Statement)
  | _, [] => some []
  | 0, _ :: _ => none
  | bound + 1, cs => do
    let (s, rest) ← line cs
    (linesUpTo bound rest).map (s :: ·)

/-- The sections that lines make up, the first without a header. -/
def sectionsFrom (header : Header) (pairs : Pairs) : List Statement → List Section
  | [] => [⟨header, pairs⟩]
  | .nothing :: rest => sectionsFrom header pairs rest
  | .pair keys d :: rest => sectionsFrom header (pairs ++ [(keys, d)]) rest
  | .header h :: rest => ⟨header, pairs⟩ :: sectionsFrom h [] rest

/-- The text without the mark that tells its encoding. -/
def skipMark (cs : List Char) : List Char :=
  match cs with
  | c :: rest => if c.toNat = 0xFEFF then rest else cs
  | [] => []

/-- The document of a TOML text. -/
def parse? (s : String) : Option Document := do
  let cs := skipMark s.toList
  let statements ← linesUpTo cs.length cs
  assemble? (sectionsFrom .root [] statements)

end JavaChecker.Toml
