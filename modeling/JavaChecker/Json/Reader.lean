import JavaChecker.Document.Basic
import JavaChecker.Number.Scaled
import JavaChecker.Text.Digits

/-!
# JavaChecker.Json.Reader

JSON texts as documents.

* A number without fraction and exponent is an integer if it fits 64 bits, signed or unsigned;
  every other number is a floating-point number, and so is `-0`. Of its digits those count that fit
  64 bits, and their number is scaled by the power of ten that remains.
* The entries of an object are put in the order of their keys, and of several entries with one key
  the last counts.
* Values may nest to any depth. A reader that sets a limit, usually of 128 levels, refuses some
  texts that are accepted here.

Repetition and nesting are bounded by one number, the length of the whole text to begin with. Each
level of nesting takes one off it and at least one character of the text, so that the bound never
comes to bear.
-/

namespace JavaChecker.Json

open Text (Reader)

/-- Whether a character may stand between the tokens of a text. -/
def isSpace (c : Char) : Bool := c = ' ' || c = '\n' || c = '\r' || c = '\t'

/-- The text without the space at its front. -/
def skipSpace (cs : List Char) : List Char := cs.dropWhile isSpace

/-! ## Strings -/

/-- A character written by code: one 16-bit unit, or two that form a surrogate pair. -/
def readCode : Reader Char := fun cs => do
  let (high, rest) ← Text.fixedDigits 16 4 cs
  if 0xD800 ≤ high ∧ high < 0xDC00 then
    match rest with
    | '\\' :: 'u' :: rest =>
      let (low, rest) ← Text.fixedDigits 16 4 rest
      if 0xDC00 ≤ low ∧ low < 0xE000 then
        some (Char.ofNat (0x10000 + (high - 0xD800) * 1024 + (low - 0xDC00)), rest)
      else none
    | _ => none
  else if 0xDC00 ≤ high ∧ high < 0xE000 then none
  else some (Char.ofNat high, rest)

/-- What follows a backslash. -/
def readEscape : Reader Char
  | '"' :: rest => some ('"', rest)
  | '\\' :: rest => some ('\\', rest)
  | '/' :: rest => some ('/', rest)
  | 'b' :: rest => some (Char.ofNat 0x08, rest)
  | 'f' :: rest => some (Char.ofNat 0x0C, rest)
  | 'n' :: rest => some ('\n', rest)
  | 'r' :: rest => some ('\r', rest)
  | 't' :: rest => some ('\t', rest)
  | 'u' :: rest => readCode rest
  | _ => none

/-- One character of a string. -/
def readChar : Reader Char
  | '\\' :: rest => readEscape rest
  | c :: rest => if c = '"' || c.toNat < 0x20 then none else some (c, rest)
  | [] => none

/-- A string after its opening quote. -/
def readString (bound : Nat) : Reader String := fun cs =>
  match Reader.manyUpTo readChar bound cs with
  | (chars, '"' :: rest) => some (String.ofList chars, rest)
  | _ => none

/-! ## Numbers -/

/-- The digits before the point; a zero stands alone. -/
def readWhole : Reader (List Char)
  | '0' :: rest => some (['0'], rest)
  | cs => Reader.run1 Char.isDigit cs

/-- A point and the digits after it. -/
def readFraction : Reader (List Char)
  | '.' :: rest => Reader.run1 Char.isDigit rest
  | _ => none

/-- The digits of an exponent, as a number. -/
def readPower : Reader Int := fun cs =>
  (Reader.run1 Char.isDigit cs).map fun (ds, rest) => ((Text.decimalValue ds : Int), rest)

/-- An exponent. -/
def readExponent : Reader Int
  | c :: rest =>
    if c = 'e' || c = 'E' then
      match rest with
      | '+' :: rest => readPower rest
      | '-' :: rest => (readPower rest).map fun (n, rest) => (-n, rest)
      | rest => readPower rest
    else none
  | [] => none

/-- Integers without sign, and the digits of floating-point numbers, are below this bound. -/
def wordLimit : Nat := Nat.pow 2 64

/-- An integer, if 64 bits hold it with its sign; otherwise the nearest floating-point number. -/
def integerOf (negative : Bool) (n : Nat) : Document :=
  if !negative then .integer n
  else if n = 0 ∨ n > wordLimit / 2 then .float (.ofDecimal true n 0)
  else .integer (-(n : Int))

/-- A floating-point number of its digits before and after the point and its exponent. Digits
before the point that do not fit leave a power of ten behind; those after it leave nothing. -/
def floatOf? (negative : Bool) (whole fraction : List Char) (exponent : Int) : Option Document :=
  let (n, large) := Text.appendDigits wordLimit 0 whole
  let (n, small) := Text.appendDigits wordLimit n fraction
  let taken := fraction.length - small.length
  (Binary64.ofScaled? negative n (large.length - taken + exponent)).map .float

/-- A number after its sign. -/
def readNumber (negative : Bool) : Reader Document := fun cs => do
  let (whole, rest) ← readWhole cs
  let (fraction?, rest) := Reader.optional readFraction rest
  let (exponent?, rest) := Reader.optional readExponent rest
  let n := Text.decimalValue whole
  if fraction?.isNone ∧ exponent?.isNone ∧ n < wordLimit then some (integerOf negative n, rest)
  else
    let d ← floatOf? negative whole (fraction?.getD []) (exponent?.getD 0)
    some (d, rest)

/-! ## Values -/

/-- Put an entry into entries that are ordered by key; an entry with its key gives way. -/
def insertEntry (key : String) (value : Document) :
    List (String × Document) → List (String × Document)
  | [] => [(key, value)]
  | (k, v) :: rest =>
    if key = k then (key, value) :: rest
    else if key < k then (key, value) :: (k, v) :: rest
    else (k, v) :: insertEntry key value rest

/-- The entries of an object, as they are read, in the order of their keys. -/
def orderEntries (entries : List (String × Document)) : List (String × Document) :=
  entries.foldl (fun ordered (k, v) => insertEntry k v ordered) []

/-- A comma and what follows it. -/
def afterComma {α : Type} (p : Reader α) : Reader α := fun cs =>
  match skipSpace cs with
  | ',' :: rest => p rest
  | _ => none

/-- Elements separated by commas up to a closing character, which may follow at once. -/
def readUntil {α : Type} (bound : Nat) (close : Char) (p : Reader α) : Reader (List α) :=
  fun cs =>
  match skipSpace cs with
  | [] => none
  | c :: rest =>
    if c = close then some ([], rest)
    else do
      let (first, rest) ← p (c :: rest)
      let (others, rest) := Reader.manyUpTo (afterComma p) bound rest
      match skipSpace rest with
      | d :: rest => if d = close then some (first :: others, rest) else none
      | [] => none

/-- A key, a colon and a value. -/
def readEntry (bound : Nat) (value : Reader Document) : Reader (String × Document) := fun cs =>
  match skipSpace cs with
  | '"' :: rest => do
    let (key, rest) ← readString bound rest
    match skipSpace rest with
    | ':' :: rest =>
      let (d, rest) ← value rest
      some ((key, d), rest)
    | _ => none
  | _ => none

/-- A value and the space before it. -/
def readValue : Nat → Reader Document
  | 0 => fun _ => none
  | bound + 1 => fun cs =>
    match skipSpace cs with
    | '"' :: rest => (readString bound rest).map fun (s, r) => (.string s, r)
    | '[' :: rest =>
      (readUntil bound ']' (readValue bound) rest).map fun (ds, r) => (.list ds, r)
    | '\x7b' :: rest =>
      (readUntil bound '\x7d' (readEntry bound (readValue bound)) rest).map fun (es, r) =>
        (.table (orderEntries es), r)
    | 'n' :: rest => (Reader.word ['u', 'l', 'l'] rest).map fun (_, r) => (.null, r)
    | 't' :: rest => (Reader.word ['r', 'u', 'e'] rest).map fun (_, r) => (.boolean true, r)
    | 'f' :: rest => (Reader.word ['a', 'l', 's', 'e'] rest).map fun (_, r) => (.boolean false, r)
    | '-' :: rest => readNumber true rest
    | cs => readNumber false cs

/-- The document of a JSON text. -/
def parse? (s : String) : Option Document := do
  let cs := s.toList
  let (d, rest) ← readValue (cs.length + 1) cs
  if skipSpace rest = [] then some d else none

end JavaChecker.Json
