import Microversion.Decimal.Double
import Microversion.Text.Digits

/-! # The shortest decimal text of a double

Of the decimals that round to a magnitude the one with the fewest digits is
taken, and of those the nearest. `Layout` says how digits are set out.
-/

namespace Microversion.Decimal

/-- The decimals that round to `x`, as `low / den` to `high / den` around `mid / den`. -/
structure Interval where
  low : Nat
  mid : Nat
  high : Nat
  den : Nat
  closed : Bool

def Magnitude.interval (x : Magnitude) : Interval :=
  let below := if x.mantissa = Magnitude.leastNormal ∧ -1074 < x.exponent then 1 else 2
  let num := Nat.pow 2 x.exponent.toNat
  { low := (4 * x.mantissa - below) * num
    mid := 4 * x.mantissa * num
    high := (4 * x.mantissa + 2) * num
    den := 4 * Nat.pow 2 (-x.exponent).toNat
    closed := x.mantissa % 2 = 0 }

/-- `digits * 10 ^ place` rounds to the magnitude of the interval. -/
def Interval.holds (i : Interval) (digits : Nat) (place : Int) : Bool :=
  let value := digits * Nat.pow 10 place.toNat * i.den
  let scale := Nat.pow 10 (-place).toNat
  if i.closed then i.low * scale ≤ value && value ≤ i.high * scale
  else i.low * scale < value && value < i.high * scale

/-- The least `k` from `start` on with `den ≤ num * 10 ^ k`. -/
def leadingZeros (num den : Nat) : Nat → Nat → Nat
  | 0, k => k
  | fuel + 1, k => if den ≤ num * Nat.pow 10 k then k else leadingZeros num den fuel (k + 1)

/-- The number of places before the point: `10 ^ (n - 1) ≤ num / den < 10 ^ n`. -/
def integerPlaces (num den : Nat) : Int :=
  if den ≤ num then (Text.decimal (num / den)).length
  else 1 - (leadingZeros num den 400 1 : Int)

/-- The nearest decimal with `count` significant digits that reads back, if there is one. -/
def Interval.onGrid (i : Interval) (places : Int) (count : Nat) : Option (Nat × Int) :=
  let place := places - count
  let num := i.mid * Nat.pow 10 (-place).toNat
  let den := i.den * Nat.pow 10 place.toNat
  let down := num / den
  let rest := num % den
  let nearUp := 2 * rest > den || (2 * rest == den && down % 2 == 1)
  let (near, far) := if nearUp then (down + 1, down) else (down, down + 1)
  if i.holds near place then some (near, place)
  else if i.holds far place then some (far, place)
  else none

/-- The significant digits of the shortest decimal and its number of places before the point. -/
def shortest (x : Magnitude) : List Char × Int :=
  let i := x.interval
  let places := integerPlaces i.mid i.den
  let (digits, place) :=
    ((List.range' 1 17).findSome? (i.onGrid places)).getD (0, 0)
  let text := Text.decimal digits
  let significant := (text.reverse.dropWhile (· == '0')).reverse
  (significant, text.length + place)

/-- How digits become text: the range of places written without an exponent. -/
structure Layout where
  leastPlaces : Int
  mostPlaces : Int
  deriving Repr

/-- Digits of which the first `places` stand before the point. -/
def positional (digits : List Char) (places : Int) : List Char :=
  let count := places.toNat
  if places ≤ 0 then '0' :: '.' :: List.replicate (-places).toNat '0' ++ digits
  else if digits.length ≤ count then
    digits ++ List.replicate (count - digits.length) '0' ++ ['.', '0']
  else digits.take count ++ '.' :: digits.drop count

/-- One digit before the point, then the power of ten with its sign. -/
def exponential (digits : List Char) (places : Int) : List Char :=
  let power := places - 1
  let sign := if power < 0 then '-' else '+'
  let fraction := if digits.length ≤ 1 then [] else '.' :: digits.drop 1
  digits.take 1 ++ fraction ++ 'e' :: sign :: Text.decimal power.natAbs

/-- The text of a double under a layout. -/
def Double.text (layout : Layout) (x : Double) : List Char :=
  let sign := if x.negative then ['-'] else []
  if x.magnitude.isZero then sign ++ ['0', '.', '0']
  else
    let (digits, places) := shortest x.magnitude
    if layout.leastPlaces ≤ places ∧ places ≤ layout.mostPlaces then
      sign ++ positional digits places
    else sign ++ exponential digits places

end Microversion.Decimal
