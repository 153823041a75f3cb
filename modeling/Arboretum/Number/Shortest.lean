import Arboretum.Number.Binary64

/-!
# Shortest decimal digits

`Binary64.shortest x` gives the fewest significant digits whose decimal reads back as `x`, and of
those the nearest to `x`. `DecimalText` lays digits out; the two layouts in use are
`DecimalText.json` (an exponent outside the everyday range) and `DecimalText.positional`.
-/

namespace Arboretum

/-- Significant digits and the position of the point: the value is `0.digits * 10 ^ point`. -/
structure DecimalDigits where
  digits : List Char
  point : Int
  deriving DecidableEq, Repr

namespace Binary64

/-- The power of ten just above the fraction `num / den`: the least `e` in the searched range with
`num / den < 10 ^ e`. The search starts from an estimate by binary logarithms. -/
def decimalPoint (num den : Nat) : Int :=
  let l : Int := (Nat.log2 num : Int) - (Nat.log2 den : Int)
  -- log10 2 is about 30103 / 100000
  let guess : Int := (l - 1) * 30103 / 100000
  let below (e : Int) : Bool :=
    if 0 ≤ e then num < den * tenPow e.toNat else num * tenPow (-e).toNat < den
  if below guess then guess
  else if below (guess + 1) then guess + 1
  else if below (guess + 2) then guess + 2
  else guess + 3

/-- The decimals `c * 10 ^ e` with `c` the floor of the value on that grid, and `c + 1`, that read
back as `x`; the nearer one if both do. -/
def onGrid (x : Binary64) (num den : Nat) (e : Int) : Option Nat :=
  let (n, d) := if 0 ≤ e then (num, den * tenPow e.toNat) else (num * tenPow (-e).toNat, den)
  let c := n / d
  let readsBack (c : Nat) : Bool := ofDecimal? x.negative c e == some x
  let nearerAbove : Bool := d < 2 * (n % d)
  if readsBack c && !(nearerAbove && readsBack (c + 1)) then some c
  else if readsBack (c + 1) then some (c + 1)
  else none

/-- Tries one digit more at a time. -/
def searchGrids (x : Binary64) (num den : Nat) (point : Int) : (more : Nat) → (k : Nat) → Nat × Int
  | 0, k => (num / den, point - k)
  | more + 1, k =>
    match onGrid x num den (point - k) with
    | some c => (c, point - k)
    | none => searchGrids x num den point more (k + 1)

/-- Drops trailing zero digits. -/
def stripZeros (digits : List Char) : List Char :=
  (digits.reverse.dropWhile (· == '0')).reverse

/-- The fewest digits that read back as `x`; zero has the one digit `0`. -/
def shortest (x : Binary64) : DecimalDigits :=
  if x.isZero then ⟨['0'], 1⟩
  else
    let (num, den) := x.magnitude
    let (c, e) := searchGrids x num den (decimalPoint num den) 17 1
    let digits := Nat.toDigits 10 c
    ⟨stripZeros digits, digits.length + e⟩

end Binary64

/-- How decimal digits are laid out as text. -/
structure DecimalText where
  /-- The point positions that are written without an exponent. -/
  positional : Int → Bool
  /-- Whether a positive exponent carries a plus sign. -/
  plusSign : Bool

namespace DecimalText

/-- JSON numbers: point positions from `-4` to `16` are positional, any other value has a signed
exponent. -/
def json : DecimalText := ⟨fun p => -5 < p && p ≤ 16, true⟩

/-- Never an exponent. -/
def plain : DecimalText := ⟨fun _ => true, false⟩

def zeros (n : Nat) : List Char := List.replicate n '0'

/-- Positional notation, with a fractional part in every case. -/
def writePositional (d : DecimalDigits) : List Char :=
  if d.point ≤ 0 then '0' :: '.' :: zeros (-d.point).toNat ++ d.digits
  else
    let whole := d.point.toNat
    if d.digits.length ≤ whole then d.digits ++ zeros (whole - d.digits.length) ++ ['.', '0']
    else d.digits.take whole ++ '.' :: d.digits.drop whole

/-- One digit before the point, and the exponent behind an `e`. -/
def writeExponent (layout : DecimalText) (d : DecimalDigits) : List Char :=
  let e := d.point - 1
  let mantissa :=
    match d.digits with
    | [] => ['0']
    | [c] => [c]
    | c :: rest => c :: '.' :: rest
  let sign := if e < 0 then ['-'] else if layout.plusSign then ['+'] else []
  mantissa ++ 'e' :: sign ++ Nat.toDigits 10 e.natAbs

/-- The text of a double under a layout. -/
def write (layout : DecimalText) (x : Binary64) : String :=
  let d := x.shortest
  let body := if layout.positional d.point then writePositional d else writeExponent layout d
  String.ofList (if x.negative then '-' :: body else body)

end DecimalText

end Arboretum
