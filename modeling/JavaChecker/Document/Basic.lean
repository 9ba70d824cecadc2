import JavaChecker.Number.Binary64

/-!
# JavaChecker.Document.Basic

Documents: the trees of values that JSON and TOML texts stand for. One type serves both formats.
`null` comes from JSON only, points in time and tables under double-bracket headers from TOML only.

The entries of a table are in the order in which a decoder visits them. Readers never produce a
table with a repeated key.
-/

namespace JavaChecker

/-- How an array was written. -/
inductive ArrayStyle where
  /-- As a bracketed list of values. -/
  | listed
  /-- As tables, each under a header of its own. -/
  | headed
deriving DecidableEq, Inhabited

/-- A tree of values. -/
inductive Document where
  | null
  | boolean (b : Bool)
  | integer (n : Int)
  | float (x : Binary64)
  | string (s : String)
  /-- A date, a time, or both, as written. -/
  | datetime (text : String)
  | array (style : ArrayStyle) (items : List Document)
  | table (entries : List (String × Document))
deriving Inhabited

namespace Document

/-- An array written as a list. -/
abbrev list (items : List Document) : Document := .array .listed items

/-- A number that is not negative. -/
abbrev natural (n : Nat) : Document := .integer n

/-- Text or nothing. -/
def text? : Option String → Document
  | some s => .string s
  | none => .null

/-- The value under a key of a table. -/
def get? (d : Document) (key : String) : Option Document :=
  match d with
  | .table entries => (entries.find? (·.1 == key)).map Prod.snd
  | _ => none

end Document

end JavaChecker
