import JavaChecker.Text.Reader

/-!
# JavaChecker.Text.Digits

Digits and the numbers they stand for.
-/

namespace JavaChecker.Text

/-- The value of a hexadecimal digit. -/
def hexValue? (c : Char) : Option Nat :=
  if '0' ≤ c ∧ c ≤ '9' then some (c.toNat - '0'.toNat)
  else if 'a' ≤ c ∧ c ≤ 'f' then some (c.toNat - 'a'.toNat + 10)
  else if 'A' ≤ c ∧ c ≤ 'F' then some (c.toNat - 'A'.toNat + 10)
  else none

/-- The number that digits of a base stand for. -/
def basedValue (base : Nat) (ds : List Char) : Nat :=
  ds.foldl (fun n c => base * n + (hexValue? c).getD 0) 0

/-- The number that decimal digits stand for. -/
def decimalValue (ds : List Char) : Nat := basedValue 10 ds

/-- Append decimal digits to a number as long as it stays below a limit. Gives the number and the
digits that are left from the first that does not fit. -/
def appendDigits (limit : Nat) : Nat → List Char → Nat × List Char
  | n, [] => (n, [])
  | n, d :: ds =>
    let next := 10 * n + (hexValue? d).getD 0
    if next < limit then appendDigits limit next ds else (n, d :: ds)

/-- Whether a character is a digit of a base up to sixteen. -/
def isDigitOf (base : Nat) (c : Char) : Bool := (hexValue? c).any (· < base)

/-- Read exactly so many digits of a base. -/
def fixedDigits (base count : Nat) : Reader Nat := fun cs =>
  let ds := cs.take count
  if ds.length = count && ds.all (isDigitOf base) then some (basedValue base ds, cs.drop count)
  else none

end JavaChecker.Text
