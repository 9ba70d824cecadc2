import JavaChecker.Number.Binary64

/-!
# JavaChecker.Number.Shortest

The fewest decimal digits that read back as a binary floating-point number.

A number stands for an interval of reals, those that are nearer to it than to its neighbours; the
ends belong to it when its mantissa is even. For one digit, two digits and so on, the two decimals
with that many digits next to the number are tried, and the first that falls into the interval is
taken; of two, the nearer. When both are equally near, a `Tie` rule decides.
-/

namespace JavaChecker

/-- A decimal, `digits · 10 ^ scale`. -/
structure Decimal where
  digits : Nat
  scale : Int
deriving DecidableEq, Inhabited

namespace Decimal

/-- A decimal as numerator and denominator. -/
def ratio (d : Decimal) : Nat × Nat :=
  let (p, q) := Binary64.powerRatio 10 d.scale
  (d.digits * p, q)

end Decimal

/-- Which of two equally near decimals is taken. -/
inductive Tie where
  /-- The one whose last digit is even. -/
  | toEven
  /-- The one with the greater digits. -/
  | up
deriving DecidableEq, Inhabited

namespace Binary64

/-- The interval of reals that round to `m · 2 ^ e`, in units of `2 ^ (e - 2)`: its ends. Below a
power of two the neighbours lie closer together. -/
def roundingInterval (m : Nat) (e : Int) : Nat × Nat :=
  let below := if m = mantissaLimit / 2 ∧ e > minExponent then 1 else 2
  (4 * m - below, 4 * m + 2)

/-- Whether a decimal rounds to `m · 2 ^ e`. -/
def readsBack (m : Nat) (e : Int) (d : Decimal) : Bool :=
  let (num, den) := d.ratio
  let (p, q) := powerRatio 2 (e - 2)
  let (low, high) := roundingInterval m e
  if m % 2 = 0 then low * p * den ≤ num * q && num * q ≤ high * p * den
  else low * p * den < num * q && num * q < high * p * den

/-- The greatest `k` with `10 ^ (k - 1) ≤ num / den`, for positive `num` and `den`. -/
def decimalOrder (num den : Nat) : Int :=
  let k : Int := (decimalLength num : Int) - decimalLength den
  let (p, q) := powerRatio 10 k
  if den * p ≤ num * q then k + 1 else k

/-- The decimal with `n` digits that reads back as `m · 2 ^ e`, if there is one. -/
def withDigits? (tie : Tie) (m : Nat) (e : Int) (n : Nat) : Option Decimal :=
  let (p, q) := powerRatio 2 e
  let (num, den) := (m * p, q)
  let scale := decimalOrder num den - n
  let (sp, sq) := powerRatio 10 scale
  let low := num * sq / (den * sp)
  let lower : Decimal := ⟨low, scale⟩
  let upper : Decimal := if low + 1 = Nat.pow 10 n then ⟨1, scale + n⟩ else ⟨low + 1, scale⟩
  match readsBack m e lower, readsBack m e upper with
  | true, true =>
    let value := 2 * num * sq
    let middle := (2 * low + 1) * den * sp
    some (if value < middle then lower
      else if middle < value then upper
      else if tie = .toEven ∧ low % 2 = 0 then lower else upper)
  | true, false => some lower
  | false, true => some upper
  | false, false => none

/-- The shortest decimal that reads back as `m · 2 ^ e`. Seventeen digits always do. -/
def shortest (tie : Tie) (m : Nat) (e : Int) : Decimal :=
  ((List.range 17).findSome? fun n => withDigits? tie m e (n + 1)).getD ⟨0, 0⟩

end Binary64

end JavaChecker
