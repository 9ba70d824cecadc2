/-!
# JavaChecker.Number.Binary64

Binary floating-point numbers with 53 significant bits, as documents hold them, in exact integer
arithmetic. `ofDecimal` gives the number nearest to a decimal; of two equally near ones, the one
with the even mantissa.
-/

namespace JavaChecker

/-- A binary floating-point number. -/
inductive Binary64 where
  | nan
  | infinite (negative : Bool)
  /-- `mantissa · 2 ^ exponent` with a sign, so that zero has two forms. -/
  | finite (negative : Bool) (mantissa : Nat) (exponent : Int)
deriving DecidableEq, Inhabited

namespace Binary64

/-- The exponent of the smallest numbers. -/
def minExponent : Int := -1074

/-- The exponent of the largest numbers. -/
def maxExponent : Int := 971

/-- Mantissas are below this bound. -/
def mantissaLimit : Nat := Nat.pow 2 53

/-- A quotient rounded to the nearest whole number; a half goes to the even neighbour. -/
def roundDiv (num den : Nat) : Nat :=
  let q := num / den
  let r := num % den
  if 2 * r < den then q
  else if den < 2 * r then q + 1
  else if q % 2 = 0 then q else q + 1

/-- A power with a whole exponent, as numerator and denominator. -/
def powerRatio (base : Nat) (e : Int) : Nat × Nat :=
  (base.pow e.toNat, base.pow (-e).toNat)

/-- The greatest `k` with `2 ^ k ≤ num / den`, for positive `num` and `den`. -/
def floorLog2 (num den : Nat) : Int :=
  let k : Int := (num.log2 : Int) - den.log2
  let (p, q) := powerRatio 2 k
  if den * p ≤ num * q then k else k - 1

/-- The number nearest to a positive quotient. -/
def ofRatio (negative : Bool) (num den : Nat) : Binary64 :=
  let e := max (floorLog2 num den - 52) minExponent
  let (p, q) := powerRatio 2 e
  let m := roundDiv (num * q) (den * p)
  let (m, e) := if m = mantissaLimit then (m / 2, e + 1) else (m, e)
  if e > maxExponent then .infinite negative else .finite negative m e

/-- The number of decimal digits. -/
def decimalLength (n : Nat) : Nat := (Nat.toDigits 10 n).length

/-- Every positive decimal from ten to this power on is beyond the largest number. -/
def overflowOrder : Int := 310

/-- Every decimal below ten to this power rounds to zero. -/
def underflowOrder : Int := -330

/-- The number nearest to `digits · 10 ^ scale`. -/
def ofDecimal (negative : Bool) (digits : Nat) (scale : Int) : Binary64 :=
  let order := (decimalLength digits : Int) + scale
  if digits = 0 || order < underflowOrder then .finite negative 0 minExponent
  else if order > overflowOrder then .infinite negative
  else
    let (p, q) := powerRatio 10 scale
    ofRatio negative (digits * p) q

end Binary64

end JavaChecker
