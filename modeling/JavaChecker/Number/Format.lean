import JavaChecker.Number.Shortest

/-!
# JavaChecker.Number.Format

The text of floating-point numbers. A `NumberFormat` says which of two equally short decimals is
taken and which numbers are written without an exponent; the rest is common to all formats: a
number without exponent has at least one digit on either side of the point, and an exponent has a
sign and no leading zeros.
-/

namespace JavaChecker

/-- How floating-point numbers are written. -/
structure NumberFormat where
  /-- Which of two equally near decimals is taken. -/
  tie : Tie
  /-- Bounds on the exponent of the leading digit, the first of them included, within which a
  number is written without an exponent; without bounds, every number is. -/
  plain : Option (Int × Int)
deriving DecidableEq, Inhabited

/-- Whether a number is written without exponent when its leading digit has this one. -/
def NumberFormat.isPlain (f : NumberFormat) (order : Int) : Bool :=
  match f.plain with
  | none => true
  | some (first, limit) => first ≤ order && order < limit

namespace Decimal

/-- The exponent of the leading digit. -/
def order (d : Decimal) : Int := ((Nat.toDigits 10 d.digits).length : Int) + d.scale - 1

/-- A decimal without exponent. At least one digit stands on either side of the point. -/
def positional (d : Decimal) : String :=
  let ds := Nat.toDigits 10 d.digits
  let zeros (n : Nat) : List Char := List.replicate n '0'
  let point : Int := d.order + 1
  if d.scale ≥ 0 then String.ofList (ds ++ zeros d.scale.toNat) ++ ".0"
  else if point > 0 then
    String.ofList (ds.take point.toNat) ++ "." ++ String.ofList (ds.drop point.toNat)
  else "0." ++ String.ofList (zeros (-point).toNat ++ ds)

/-- A decimal with exponent. The point follows the leading digit, if others do. -/
def scientific (d : Decimal) : String :=
  let ds := Nat.toDigits 10 d.digits
  let point := if ds.length = 1 then [] else ['.']
  let sign := if d.order < 0 then "-" else "+"
  String.ofList (ds.take 1 ++ point ++ ds.drop 1) ++ "e" ++ sign ++ toString d.order.natAbs

/-- The text of a decimal. -/
def text (f : NumberFormat) (d : Decimal) : String :=
  if f.isPlain d.order then d.positional else d.scientific

end Decimal

/-- The text of a number. -/
def Binary64.text (f : NumberFormat) : Binary64 → String
  | .nan => "NaN"
  | .infinite negative => if negative then "-inf" else "inf"
  | .finite negative m e =>
    (if negative then "-" else "") ++
      (if m = 0 then "0.0" else (shortest f.tie m e).text f)

end JavaChecker
