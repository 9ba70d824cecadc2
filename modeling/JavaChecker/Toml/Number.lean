import JavaChecker.Document.Basic
import JavaChecker.Text.Digits
import JavaChecker.Toml.Trivia

/-!
# JavaChecker.Toml.Number

Integers and floating-point numbers. Underscores may separate digits. Integers have 64 bits with
sign; those in other bases have none. A floating-point number that is too large is refused.
-/

namespace JavaChecker.Toml

open Text (Reader)

/-- A digit after an underscore. -/
def separatedDigit (digit : Char → Bool) : Reader Char
  | '_' :: rest => Reader.one digit rest
  | _ => none

/-- Digits, with underscores between them. -/
def digits (digit : Char → Bool) : Reader (List Char) := fun cs => do
  let (first, rest) ← Reader.one digit cs
  let (others, rest) := Reader.many (Reader.orElse (Reader.one digit) (separatedDigit digit)) rest
  some (first :: others, rest)

/-- A sign, which may be missing: whether it is a minus. -/
def sign : List Char → Bool × List Char
  | '+' :: rest => (false, rest)
  | '-' :: rest => (true, rest)
  | cs => (false, cs)

/-- Decimal digits without needless zeros in front. -/
def wholePart : Reader (List Char)
  | '0' :: rest => some (['0'], rest)
  | cs => digits Char.isDigit cs

/-! ## Integers -/

/-- An integer, if 64 bits with sign hold it. -/
def integer? (negative : Bool) (n : Nat) : Option Document :=
  if negative then if n ≤ Nat.pow 2 63 then some (.integer (-(n : Int))) else none
  else if n < Nat.pow 2 63 then some (.integer n) else none

/-- An integer in another base, after its mark. -/
def basedInteger (base : Nat) : Reader Document := fun cs => do
  let (ds, rest) ← digits (Text.isDigitOf base) cs
  (integer? false (Text.basedValue base ds)).map (·, rest)

/-- A decimal integer. -/
def decimalInteger : Reader Document := fun cs => do
  let (negative, rest) := sign cs
  let (ds, rest) ← wholePart rest
  (integer? negative (Text.decimalValue ds)).map (·, rest)

/-- An integer. -/
def integer : Reader Document
  | '0' :: 'x' :: rest => basedInteger 16 rest
  | '0' :: 'o' :: rest => basedInteger 8 rest
  | '0' :: 'b' :: rest => basedInteger 2 rest
  | cs => decimalInteger cs

/-! ## Floating-point numbers -/

/-- A point and the digits after it. -/
def fraction : Reader (List Char)
  | '.' :: rest => digits Char.isDigit rest
  | _ => none

/-- An exponent. -/
def exponent : Reader Int
  | c :: rest =>
    if c = 'e' || c = 'E' then do
      let (negative, rest) := sign rest
      let (ds, rest) ← digits Char.isDigit rest
      let n : Int := Text.decimalValue ds
      some (if negative then -n else n, rest)
    else none
  | [] => none

/-- A floating-point number in digits: a fraction, an exponent or both. -/
def decimalFloat : Reader Document := fun cs => do
  let (negative, rest) := sign cs
  let (whole, rest) ← wholePart rest
  let (fraction?, rest) := Reader.optional fraction rest
  let (exponent?, rest) := Reader.optional exponent rest
  if fraction?.isNone && exponent?.isNone then none
  else
    let fraction := fraction?.getD []
    let x := Binary64.ofDecimal negative (Text.decimalValue (whole ++ fraction))
      (exponent?.getD 0 - (fraction.length : Int))
    if x = .infinite false then none else some (.float x, rest)

/-- Infinity or not-a-number in words. -/
def specialFloat : Reader Document := fun cs =>
  match sign cs with
  | (negative, 'i' :: 'n' :: 'f' :: rest) => some (.float (.infinite negative), rest)
  | (_, 'n' :: 'a' :: 'n' :: rest) => some (.float .nan, rest)
  | _ => none

/-- A floating-point number. -/
def float : Reader Document := Reader.orElse decimalFloat specialFloat

end JavaChecker.Toml
