import JavaChecker.Document.Problem

/-!
# JavaChecker.Document.Decode

Decoding documents into values: scalars, lists, records and choices.

A *record* is described once, by its fields in declaration order; the description serves tables,
where fields are found by name, and arrays, where they are found by position. A *choice* is
described by its variants.

JSON and TOML share all of this and differ in three places, which `Dialect` selects: what happens
to surplus elements of an array, how a choice must be written, and what a variant that carries
nothing may be given.
-/

namespace JavaChecker

/-- A function from documents to values. -/
abbrev Decoder (α : Type) := Document → Except Problem α

namespace Decoder

variable {α β : Type}

/-! ## Scalars and lists -/

/-- Text, where something else is not what is expected. -/
def text (expected : String) : Decoder String
  | .string s => .ok s
  | d => .error (.wrongType d.shape expected)

/-- Text. -/
def string : Decoder String := text "a string"

/-- The text of a file path. -/
def path : Decoder String := text "path string"

/-- A truth value. -/
def boolean : Decoder Bool
  | .boolean b => .ok b
  | d => .error (.wrongType d.shape "a boolean")

/-- A whole number from zero up to, and without, a limit; `kind` names the range in complaints. -/
def natural (limit : Nat) (kind : String) : Decoder Nat
  | .integer n =>
    if 0 ≤ n ∧ n < limit then .ok n.toNat else .error (.wrongValue (.integer n) kind)
  | d => .error (.wrongType d.shape kind)

/-- A list; the first element that does not decode ends the decoding. -/
def list (item : Decoder α) : Decoder (List α)
  | .array _ items => items.mapM item
  | d => .error (.wrongType d.shape "a sequence")

/-- A value, or `null` for none. -/
def nullable (value : Decoder α) : Decoder (Option α)
  | .null => .ok none
  | d => (value d).map some

end Decoder

/-! ## Records -/

/-- A field of a record of type `α`: its name, whether it must be given, and how its document
changes the record. -/
structure RecordField (α : Type) where
  name : String
  required : Bool
  read : Document → α → Except Problem α

/-- A field that must be given. -/
def RecordField.needed {α β : Type} (name : String) (value : Decoder β) (set : β → α → α) :
    RecordField α where
  name := name
  required := true
  read d a := (value d).map (set · a)

/-- A field that may be left out, and then keeps the value it has in the blank record. -/
def RecordField.defaulted {α β : Type} (name : String) (value : Decoder β) (set : β → α → α) :
    RecordField α where
  name := name
  required := false
  read d a := (value d).map (set · a)

/-- How a record type is written in documents. -/
structure Record (α : Type) where
  /-- The name of the type in complaints. -/
  name : String
  /-- The record before any field is read; fields that may be left out have their defaults. -/
  blank : α
  /-- The fields in declaration order. -/
  fields : List (RecordField α)
  /-- Whether a key that names no field is refused rather than ignored. -/
  closed : Bool := false

namespace Record

variable {α : Type}

/-- The names of the fields in declaration order. -/
def names (r : Record α) : List String := r.fields.map (·.name)

/-- The field with a given name. -/
def field? (r : Record α) (name : String) : Option (RecordField α) :=
  r.fields.find? (·.name == name)

/-- Read the entries of a table into a record, in their order. -/
def readEntries (r : Record α) : List (String × Document) → α → Except Problem α
  | [], a => .ok a
  | (key, d) :: rest, a =>
    match r.field? key with
    | some f => (f.read d a).bind (r.readEntries rest)
    | none => if r.closed then .error (.unknownField key r.names) else r.readEntries rest a

/-- The first field in declaration order that must be given and is not. -/
def missing? (r : Record α) (entries : List (String × Document)) : Option String :=
  (r.fields.find? fun f => f.required && !entries.any (·.1 == f.name)).map (·.name)

/-- Decode a table. Entries are read in their order and the first problem wins; a missing field
is noticed after all of them. -/
def ofTable (r : Record α) (entries : List (String × Document)) : Except Problem α := do
  let a ← r.readEntries entries r.blank
  match r.missing? entries with
  | some name => .error (.missingField name)
  | none => .ok a

/-- The requirement on the length of an array, in words. -/
def lengthText (r : Record α) : String :=
  let n := r.fields.length
  s!"struct {r.name} with {n} " ++ (if n = 1 then "element" else "elements")

/-- Read the elements of an array into the fields at their positions; `index` is the position of
the first of them. Gives the elements left over when the fields run out. -/
def readItems (r : Record α) (index : Nat) :
    List (RecordField α) → List Document → α → Except Problem (α × List Document)
  | [], items, a => .ok (a, items)
  | f :: fields, d :: items, a => (f.read d a).bind (r.readItems (index + 1) fields items)
  | f :: fields, [], a =>
    if f.required then .error (.wrongLength index r.lengthText)
    else r.readItems (index + 1) fields [] a

/-- Decode an array. Surplus elements are refused in JSON and ignored in TOML. -/
def ofArray (r : Record α) (dialect : Dialect) (items : List Document) : Except Problem α := do
  let (a, surplus) ← r.readItems 0 r.fields items r.blank
  if dialect = .json ∧ surplus ≠ [] then
    .error (.wrongLength items.length "fewer elements in array")
  else .ok a

/-- The key under which a point in time presents itself where a table is expected. -/
def datetimeKey : String := "$__toml_private_datetime"

/-- Decode a record from a table or an array. -/
def decode (r : Record α) (dialect : Dialect) : Decoder α
  | .table entries => r.ofTable entries
  | .datetime text => r.ofTable [(datetimeKey, .string text)]
  | .array _ items => r.ofArray dialect items
  | d => .error (.wrongType d.shape s!"struct {r.name}")

end Record

/-! ## Choices -/

/-- What a variant carries. -/
inductive Payload (α : Type) where
  /-- Nothing: the variant is this value. -/
  | unit (value : α)
  /-- A document that decodes to the value. -/
  | carries (value : Decoder α)

/-- A named alternative of a choice. -/
structure Variant (α : Type) where
  name : String
  payload : Payload α

/-- A variant that carries nothing. -/
def Variant.plain {α : Type} (name : String) (value : α) : Variant α := ⟨name, .unit value⟩

namespace Variant

variable {α : Type}

/-- Whether a variant that carries nothing may be given this document, in JSON. -/
def emptyJson : Decoder Unit
  | .null => .ok ()
  | d => .error (.wrongType d.shape "unit")

/-- Whether a variant that carries nothing may be given this document, in TOML. -/
def emptyToml : Decoder Unit
  | .array _ [] | .table [] => .ok ()
  | .array style _ => .error (.payloadNotEmpty (some style))
  | .table _ => .error (.payloadNotEmpty none)
  | .string _ => .error (.payloadNotTable "string")
  | .integer _ => .error (.payloadNotTable "integer")
  | .float _ => .error (.payloadNotTable "float")
  | .boolean _ => .error (.payloadNotTable "boolean")
  | .datetime _ => .error (.payloadNotTable "datetime")
  | .null => .error (.payloadNotTable "null")

/-- Decode the variant with the given name and, where it was given one, its document. -/
def pick (dialect : Dialect) (variants : List (Variant α)) (name : String)
    (given : Option Document) : Except Problem α :=
  match variants.find? (·.name == name) with
  | none => .error (.unknownVariant name (variants.map (·.name)))
  | some v =>
    match v.payload, given with
    | .unit a, none => .ok a
    | .unit a, some d =>
      match dialect with
      | .json => (emptyJson d).map fun _ => a
      | .toml => (emptyToml d).map fun _ => a
    | .carries _, none => .error (.wrongType .unitVariant "newtype variant")
    | .carries value, some d => value d

/-- Decode a choice: the name of a variant, or a table with the name as its only key. -/
def decode (dialect : Dialect) (variants : List (Variant α)) : Decoder α
  | .string name => pick dialect variants name none
  | .table [(name, d)] => pick dialect variants name (some d)
  | .table entries =>
    match dialect with
    | .json => .error (.wrongValue .map "map with a single key")
    | .toml => .error (if entries.isEmpty then .noEntry else .severalEntries)
  | d =>
    match dialect with
    | .json => .error (.wrongType d.shape "string or map")
    | .toml => .error .notStringOrTable

end Variant

end JavaChecker
