import JavaChecker.Document.Basic
import JavaChecker.Document.Dialect
import JavaChecker.Text.Quoted

/-!
# JavaChecker.Document.Problem

Why a document does not decode to a value, and how that is put into words. A problem names what
was found and what was expected; the wording is in `Problem.message` and nowhere else. Numbers are
worded as they look in the dialect of the document.
-/

namespace JavaChecker

/-- What a document is, as far as a complaint about it tells. -/
inductive Shape where
  | null
  | boolean (b : Bool)
  | integer (n : Int)
  | float (x : Binary64)
  | string (s : String)
  | sequence
  | map
  /-- A variant that was named without the value it carries. -/
  | unitVariant
deriving DecidableEq, Inhabited

/-- The shape in words. -/
def Shape.describe (dialect : Dialect) : Shape → String
  | .null => "null"
  | .boolean b => s!"boolean `{b}`"
  | .integer n => s!"integer `{n}`"
  | .float x => s!"floating point `{x.text dialect.numbers}`"
  | .string s => s!"string {Text.quoted s}"
  | .sequence => "sequence"
  | .map => "map"
  | .unitVariant => "unit variant"

/-- The shape of a document. A point in time counts as a map. -/
def Document.shape : Document → Shape
  | .null => .null
  | .boolean b => .boolean b
  | .integer n => .integer n
  | .float x => .float x
  | .string s => .string s
  | .datetime _ | .table _ => .map
  | .array .. => .sequence

/-- Why a document does not decode. -/
inductive Problem where
  /-- A value of the wrong kind. -/
  | wrongType (found : Shape) (expected : String)
  /-- A value of the right kind that is not allowed. -/
  | wrongValue (found : Shape) (expected : String)
  /-- An array of the wrong length. -/
  | wrongLength (length : Nat) (expected : String)
  /-- A key that the record does not have. -/
  | unknownField (name : String) (known : List String)
  /-- A key that the record must have and the table has not. -/
  | missingField (name : String)
  /-- A variant that the choice does not have. -/
  | unknownVariant (name : String) (known : List String)
  /-- A choice written neither as a string nor as a table. -/
  | notStringOrTable
  /-- A choice written as a table without entries. -/
  | noEntry
  /-- A choice written as a table with more than one entry. -/
  | severalEntries
  /-- A variant that carries nothing was given an array or a table with something in it. -/
  | payloadNotEmpty (style : Option ArrayStyle)
  /-- A variant that carries nothing was given a plain value. -/
  | payloadNotTable (kind : String)
deriving DecidableEq, Inhabited

namespace Problem

/-- A choice of names in words. -/
def oneOf (names : List String) : String :=
  match names.map fun n => s!"`{n}`" with
  | [a] => a
  | [a, b] => s!"{a} or {b}"
  | quoted => "one of " ++ ", ".intercalate quoted

/-- The problem in words. -/
def message (dialect : Dialect) : Problem → String
  | .wrongType found expected => s!"invalid type: {found.describe dialect}, expected {expected}"
  | .wrongValue found expected => s!"invalid value: {found.describe dialect}, expected {expected}"
  | .wrongLength n expected => s!"invalid length {n}, expected {expected}"
  | .unknownField name known => s!"unknown field `{name}`, expected {oneOf known}"
  | .missingField name => s!"missing field `{name}`"
  | .unknownVariant name known => s!"unknown variant `{name}`, expected {oneOf known}"
  | .notStringOrTable => "wanted string or table"
  | .noEntry => "wanted exactly 1 element, found 0 elements"
  | .severalEntries => "wanted exactly 1 element, more than 1 element"
  | .payloadNotEmpty (some .headed) => "expected empty array"
  | .payloadNotEmpty _ => "expected empty table"
  | .payloadNotTable kind => s!"expected table, found {kind}"

end Problem

end JavaChecker
