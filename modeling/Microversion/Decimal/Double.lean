/-! # Finite doubles

A magnitude is `mantissa * 2 ^ exponent` with a mantissa below `2 ^ 53` and an
exponent from `-1074` to `971`. Products and quotients are rounded to the
nearest magnitude, a half going to the even mantissa.
-/

namespace Microversion.Decimal

/-- The absolute value `mantissa * 2 ^ exponent` of a finite double. -/
structure Magnitude where
  mantissa : Nat
  exponent : Int
deriving DecidableEq, Repr

/-- A finite double; zero has a sign too. -/
structure Double where
  negative : Bool
  magnitude : Magnitude
deriving DecidableEq, Repr

namespace Magnitude

def zero : Magnitude := ⟨0, -1074⟩

/-- The least mantissa of a magnitude with all its digits: a double has 53 binary digits. -/
def leastNormal : Nat := 4503599627370496

def isZero (x : Magnitude) : Bool := x.mantissa == 0

/-- The magnitude as a quotient of natural numbers. -/
def ratio (x : Magnitude) : Nat × Nat :=
  (x.mantissa * Nat.pow 2 x.exponent.toNat, Nat.pow 2 (-x.exponent).toNat)

/-- The whole part and the remainder of `num / den` measured in units of `2 ^ exponent`. -/
def inUnits (num den : Nat) (exponent : Int) : Nat × Nat × Nat :=
  let n := num * Nat.pow 2 (-exponent).toNat
  let d := den * Nat.pow 2 exponent.toNat
  (n / d, n % d, d)

/-- The magnitude nearest to `num / den`, `none` when it lies beyond the largest double. -/
def ofRatio (num den : Nat) : Option Magnitude :=
  let low : Int := (num.log2 : Int) - den.log2 - 53
  let low := if (inUnits num den low).1 < 2 * leastNormal then low else low + 1
  let exponent := max low (-1074)
  let (whole, rest, unit) := inUnits num den exponent
  let up := 2 * rest > unit || (2 * rest == unit && whole % 2 == 1)
  let whole := if up then whole + 1 else whole
  let (whole, exponent) :=
    if whole = 2 * leastNormal then (leastNormal, exponent + 1) else (whole, exponent)
  if num = 0 then some zero
  else if exponent > 971 then none
  else some ⟨whole, exponent⟩

/-- The rounded product. -/
def mul? (x y : Magnitude) : Option Magnitude :=
  ofRatio (x.ratio.1 * y.ratio.1) (x.ratio.2 * y.ratio.2)

/-- The rounded quotient. -/
def div? (x y : Magnitude) : Option Magnitude :=
  ofRatio (x.ratio.1 * y.ratio.2) (x.ratio.2 * y.ratio.1)

/-- The magnitude nearest to a power of ten. -/
def powerOfTen (k : Nat) : Magnitude :=
  (ofRatio (Nat.pow 10 k) 1).getD zero

/-- Divide by `10 ^ k`, in steps of at most 308 places. -/
def scaleDown (x : Magnitude) (k : Nat) : Magnitude :=
  if h : k ≤ 308 then (x.div? (powerOfTen k)).getD zero
  else if x.isZero then x
  else scaleDown ((x.div? (powerOfTen 308)).getD zero) (k - 308)
  termination_by k
  decreasing_by omega

/-- Multiply by `10 ^ k`, `none` when the result is too large. -/
def scaleUp? (x : Magnitude) (k : Nat) : Option Magnitude :=
  if k ≤ 308 then x.mul? (powerOfTen k)
  else if x.isZero then some x
  else none

/-- `significand * 10 ^ exponent` in double arithmetic. -/
def ofScientific? (significand : Nat) (exponent : Int) : Option Magnitude :=
  match ofRatio significand 1 with
  | none => none
  | some x =>
    if 0 ≤ exponent then x.scaleUp? exponent.toNat else some (x.scaleDown (-exponent).toNat)

end Magnitude

end Microversion.Decimal
