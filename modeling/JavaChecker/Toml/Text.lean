import JavaChecker.Text.Digits
import JavaChecker.Toml.Trivia

/-!
# JavaChecker.Toml.Text

The four kinds of strings: basic ones with escapes and literal ones without, each on one line or on
several. Strings on several lines begin and end with three quotes; a line break right after the
opening ones does not count, every other one is a line feed, and up to two quotes may stand right
before the closing ones.
-/

namespace JavaChecker.Toml

open Text (Reader)

/-- The delimiter of literal strings. -/
def apostrophe : Char := Char.ofNat 0x27

/-- The character with a given code point, surrogates excluded. -/
def scalar? (n : Nat) : Option Char :=
  if h : n.isValidChar then some (Char.ofNatAux n h) else none

/-- What follows a backslash. -/
def escape : Reader Char
  | 'b' :: rest => some (Char.ofNat 0x08, rest)
  | 't' :: rest => some ('\t', rest)
  | 'n' :: rest => some ('\n', rest)
  | 'f' :: rest => some (Char.ofNat 0x0C, rest)
  | 'r' :: rest => some ('\r', rest)
  | '"' :: rest => some ('"', rest)
  | '\\' :: rest => some ('\\', rest)
  | 'u' :: rest => do
    let (n, rest) ← Text.fixedDigits 16 4 rest
    (scalar? n).map (·, rest)
  | 'U' :: rest => do
    let (n, rest) ← Text.fixedDigits 16 8 rest
    (scalar? n).map (·, rest)
  | _ => none

/-- A character that stands for itself in a basic string. -/
def isBasic (c : Char) : Bool := isText c && c ≠ '"' && c ≠ '\\'

/-- A character that stands for itself in a literal string. -/
def isLiteral (c : Char) : Bool := isText c && c ≠ apostrophe

/-- One character of a basic string. -/
def basicChar : Reader Char
  | '\\' :: rest => escape rest
  | cs => Reader.one isBasic cs

/-- A basic string after its opening quote. -/
def basicString : Reader (List Char) := fun cs =>
  match Reader.many basicChar cs with
  | (chars, '"' :: rest) => some (chars, rest)
  | _ => none

/-- A literal string after its opening quote. -/
def literalString : Reader (List Char) := fun cs =>
  match Reader.run isLiteral cs with
  | (chars, c :: rest) => if c = apostrophe then some (chars, rest) else none
  | (_, []) => none

/-! ## Strings on several lines -/

/-- A quote that is not the first of three. -/
def looseQuote (quote : Char) : Reader Char
  | c :: rest =>
    if c = quote && !(rest.take 2 == [quote, quote]) then some (quote, rest) else none
  | [] => none

/-- The closing quotes, three to five of them; those beyond three belong to the string. -/
def closingQuotes (quote : Char) : Reader (List Char) := fun cs =>
  let n := min (cs.takeWhile (· == quote)).length 5
  if n < 3 then none else some (List.replicate (n - 3) quote, cs.drop n)

/-- A string on several lines after its opening quotes, from the pieces that it may hold. -/
def severalLines (quote : Char) (piece : Reader (List Char)) : Reader (List Char) := fun cs => do
  let (_, cs) := Reader.optional lineBreak cs
  let (pieces, rest) := Reader.many piece cs
  let (extra, rest) ← closingQuotes quote rest
  some (pieces.flatten ++ extra, rest)

/-- A line break within a string, which counts as a line feed. -/
def brokenString : Reader (List Char) := fun cs =>
  (lineBreak cs).map fun (_, rest) => (['\n'], rest)

/-- A backslash at the end of a line: it takes away the line break and all blanks and line breaks
after it. -/
def continuation : Reader (List Char)
  | '\\' :: rest => do
    let (_, rest) ← lineBreak (skipBlank rest)
    let (_, rest) := Reader.many (fun cs => lineBreak (skipBlank cs)) rest
    some ([], skipBlank rest)
  | _ => none

/-- A single character as a piece of a string. -/
def pieceOf (p : Reader Char) : Reader (List Char) := fun cs =>
  (p cs).map fun (c, rest) => ([c], rest)

/-- A piece of a basic string on several lines. -/
def basicPiece : Reader (List Char) :=
  Reader.orElse continuation <| Reader.orElse (pieceOf basicChar) <|
    Reader.orElse brokenString (pieceOf (looseQuote '"'))

/-- A piece of a literal string on several lines. -/
def literalPiece : Reader (List Char) :=
  Reader.orElse (pieceOf (Reader.one isLiteral)) <|
    Reader.orElse brokenString (pieceOf (looseQuote apostrophe))

/-- A string of one line, as keys may be. -/
def shortString : Reader String
  | c :: rest =>
    if c = '"' then (basicString rest).map fun (s, r) => (String.ofList s, r)
    else if c = apostrophe then (literalString rest).map fun (s, r) => (String.ofList s, r)
    else none
  | [] => none

/-- A string of any kind. -/
def string : Reader String := fun cs =>
  if cs.take 3 == ['"', '"', '"'] then
    (severalLines '"' basicPiece (cs.drop 3)).map fun (s, r) => (String.ofList s, r)
  else if cs.take 3 == [apostrophe, apostrophe, apostrophe] then
    (severalLines apostrophe literalPiece (cs.drop 3)).map fun (s, r) => (String.ofList s, r)
  else shortString cs

end JavaChecker.Toml
