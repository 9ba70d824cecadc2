import JavaChecker.Number.Binary64

/-!
# JavaChecker.Number.Scaled

Reading decimals by scaling. The digits are rounded to a floating-point number, and so is the power
of ten; then the one is multiplied or divided by the other. Each of these steps rounds to the
nearest number, but together they may end beside the number that is nearest to the decimal, which
`Binary64.ofDecimal` finds.

Powers of ten are numbers up to a greatest one. A decimal that is divided by more than that is
divided several times.
-/

namespace JavaChecker

/-- A finite floating-point number without its sign, `mantissa · 2 ^ exponent`. -/
structure Magnitude where
  mantissa : Nat
  exponent : Int
deriving DecidableEq, Inhabited

namespace Magnitude

open Binary64 (powerRatio)

/-- The number nearest to a quotient, unless that is beyond the largest number. -/
def nearest? (num den : Nat) : Option Magnitude :=
  if num = 0 then some ⟨0, Binary64.minExponent⟩
  else
    match Binary64.ofRatio false num den with
    | .finite _ m e => some ⟨m, e⟩
    | .infinite _ | .nan => none

/-- A product, rounded. -/
def times? (x y : Magnitude) : Option Magnitude :=
  let (p, q) := powerRatio 2 (x.exponent + y.exponent)
  nearest? (x.mantissa * y.mantissa * p) q

/-- A quotient, rounded. -/
def over? (x y : Magnitude) : Option Magnitude :=
  let (p, q) := powerRatio 2 (x.exponent - y.exponent)
  nearest? (x.mantissa * p) (y.mantissa * q)

/-- The exponent of the greatest power of ten that is a number. -/
def maxPower : Nat := 308

/-- A power of ten, rounded. -/
def tenTo? (n : Nat) : Option Magnitude := nearest? (Nat.pow 10 n) 1

/-- Multiply by a power of ten. Only zero stands being multiplied by more than the greatest. -/
def timesTen? (x : Magnitude) (n : Nat) : Option Magnitude :=
  if n ≤ maxPower then (tenTo? n).bind x.times?
  else if x.mantissa = 0 then some x
  else none

/-- Divide by the greatest power of ten so many times. Zero stays what it is. -/
def overGreatest? : Nat → Magnitude → Option Magnitude
  | 0, x => some x
  | k + 1, x =>
    if x.mantissa = 0 then some x
    else ((tenTo? maxPower).bind x.over?).bind (overGreatest? k)

/-- Divide by a power of ten: by the greatest one first, until what is left is not more than
that. -/
def overTen? (x : Magnitude) (n : Nat) : Option Magnitude := do
  let steps := (n - 1) / maxPower
  let y ← overGreatest? steps x
  (tenTo? (n - steps * maxPower)).bind y.over?

end Magnitude

/-- The number that scaling makes of `digits · 10 ^ scale`, unless it gets beyond the largest. -/
def Binary64.ofScaled? (negative : Bool) (digits : Nat) (scale : Int) : Option Binary64 := do
  let x ← Magnitude.nearest? digits 1
  let y ← if scale < 0 then x.overTen? scale.natAbs else x.timesTen? scale.natAbs
  some (.finite negative y.mantissa y.exponent)

end JavaChecker
