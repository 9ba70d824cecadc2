import JavaChecker.Document.Basic
import JavaChecker.Document.Dialect
import JavaChecker.Text.Quoted

/-!
# JavaChecker.Json.Writer

Documents as JSON text, on one line and without blanks. In strings, the quote, the backslash and
the control characters are escaped and everything else stands as it is. Entries keep their order.

JSON has no form for points in time, which are written as strings, nor for infinite numbers and
not-a-number, which are written as `null`.
-/

namespace JavaChecker.Json

/-- A control character by its code point, in four hexadecimal digits. -/
def codeEscape (n : Nat) : List Char :=
  ['\\', 'u', '0', '0', Nat.digitChar (n / 16), Nat.digitChar (n % 16)]

/-- A character as it stands in a JSON string. -/
def escapeChar (c : Char) : List Char :=
  if c = '"' then ['\\', '"']
  else if c = '\\' then ['\\', '\\']
  else if c.toNat < 0x20 then
    if c = '\n' then ['\\', 'n']
    else if c = '\r' then ['\\', 'r']
    else if c = '\t' then ['\\', 't']
    else if c.toNat = 0x08 then ['\\', 'b']
    else if c.toNat = 0x0C then ['\\', 'f']
    else codeEscape c.toNat
  else [c]

/-- A string in JSON. -/
def writeString (s : String) : List Char := '"' :: (s.toList.flatMap escapeChar ++ ['"'])

/-- A number in JSON. -/
def writeFloat (x : Binary64) : List Char :=
  match x with
  | .finite .. => (x.text Dialect.json.numbers).toList
  | .nan | .infinite _ => ['n', 'u', 'l', 'l']

mutual

/-- A document in JSON. -/
def write : Document → List Char
  | .null => ['n', 'u', 'l', 'l']
  | .boolean true => ['t', 'r', 'u', 'e']
  | .boolean false => ['f', 'a', 'l', 's', 'e']
  | .integer n => (toString n).toList
  | .float x => writeFloat x
  | .string s => writeString s
  | .datetime s => writeString s
  | .array _ items => '[' :: (writeItems items ++ [']'])
  | .table entries => '\x7b' :: (writeEntries entries ++ ['\x7d'])

/-- The elements of an array in JSON, separated by commas. -/
def writeItems : List Document → List Char
  | [] => []
  | [d] => write d
  | d :: ds => write d ++ ',' :: writeItems ds

/-- The entries of a table in JSON, separated by commas. -/
def writeEntries : List (String × Document) → List Char
  | [] => []
  | [(k, d)] => writeString k ++ ':' :: write d
  | (k, d) :: es => writeString k ++ ':' :: (write d ++ ',' :: writeEntries es)

end

/-- The JSON text of a document. -/
def text (d : Document) : String := String.ofList (write d)

end JavaChecker.Json
