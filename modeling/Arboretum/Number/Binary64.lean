import Arboretum.Number.Power

/-!
# Finite binary64 numbers

A finite double is kept as sign, significand and power of two, so that its exact value is plain
arithmetic: `± significand * 2 ^ exponent`. Decimal literals are rounded to the nearest double,
ties to the even significand (`Binary64.ofDecimal?`); nothing here uses machine floats.
-/

namespace Arboretum

/-- A finite double: `± significand * 2 ^ exponent`. Values built by `Binary64.ofDecimal?` have
the significand below `2 ^ 53` and the exponent at least `-1074`. -/
structure Binary64 where
  negative : Bool
  significand : Nat
  exponent : Int
  deriving DecidableEq, Repr, Inhabited

namespace Binary64

/-- The least exponent of a double. -/
def minExponent : Int := -1074

/-- The greatest exponent of a double. -/
def maxExponent : Int := 971

/-- Zero of either sign. -/
def zero (negative : Bool) : Binary64 := ⟨negative, 0, minExponent⟩

def isZero (x : Binary64) : Bool := x.significand == 0

/-- The nearest integer to `num / den`, a tie going to the even one. -/
def roundDiv (num den : Nat) : Nat :=
  let q := num / den
  let r := num % den
  if 2 * r < den then q
  else if den < 2 * r then q + 1
  else if q % 2 = 0 then q else q + 1

/-- `n * 2 ^ k / 1` as a fraction, for an exponent of either sign. -/
def scale (num den : Nat) (k : Int) : Nat × Nat :=
  if 0 ≤ k then (num, den * twoPow k.toNat) else (num * twoPow (-k).toNat, den)

/-- The double nearest to the positive fraction `num / den`; `none` past the greatest double. -/
def ofFraction? (negative : Bool) (num den : Nat) : Option Binary64 :=
  let l : Int := (Nat.log2 num : Int) - (Nat.log2 den : Int)
  -- `num / den` lies between `2 ^ (l - 1)` and `2 ^ (l + 1)`
  let (n, d) := scale num den l
  let top : Int := if d ≤ n then l else l - 1
  let k := max (top - 52) minExponent
  let (n, d) := scale num den k
  let m := roundDiv n d
  let (m, k) := if m = twoPow 53 then (twoPow 52, k + 1) else (m, k)
  if maxExponent < k then none else some ⟨negative, m, k⟩

/-- Number of decimal digits of `n`, at least one. -/
def digitCount (n : Nat) : Nat := (Nat.toDigits 10 n).length

/-- The double nearest to `± digits * 10 ^ exp10`; `none` when it would be infinite. Exponents so
large or so small that the answer is settled by the size alone are answered without arithmetic on
big powers. -/
def ofDecimal? (negative : Bool) (digits : Nat) (exp10 : Int) : Option Binary64 :=
  if digits = 0 then some (zero negative)
  else
    let size : Int := digitCount digits + exp10
    if 310 < size then none
    else if size < -330 then some (zero negative)
    else if 0 ≤ exp10 then ofFraction? negative (digits * tenPow exp10.toNat) 1
    else ofFraction? negative digits (tenPow (-exp10).toNat)

/-- The absolute value as a fraction. -/
def magnitude (x : Binary64) : Nat × Nat :=
  if 0 ≤ x.exponent then (x.significand * twoPow x.exponent.toNat, 1)
  else (x.significand, twoPow (-x.exponent).toNat)

/-- The absolute value, when it is a whole number. -/
def natAbs? (x : Binary64) : Option Nat :=
  let (n, d) := x.magnitude
  if n % d = 0 then some (n / d) else none

/-- The value, when it is a whole number and not negative; `-0.0` counts as zero. -/
def toNat? (x : Binary64) : Option Nat :=
  if x.negative && !x.isZero then none else x.natAbs?

/-- Equality of values: the two zeros are equal. -/
def sameValue (x y : Binary64) : Bool :=
  x == y || (x.isZero && y.isZero)

end Binary64

end Arboretum
