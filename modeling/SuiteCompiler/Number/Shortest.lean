/-
  SuiteCompiler/Number/Shortest.lean
  ==================================
  The fewest decimal digits that read back as a given floating-point number, and
  the notation built from them.

  The numbers that round to `m · 2 ^ q` fill an interval around it.  For one
  digit, two digits and so on, the two multiples of the matching power of ten next
  to the number are tried; the first count of digits with a multiple inside the
  interval wins, and of two such multiples the nearer.
-/
import SuiteCompiler.Number.Decimal
import SuiteCompiler.Number.Double

namespace SuiteCompiler.Number

/-- A positive number `value / unit` and the interval `[value - below, value + above] / unit` of
the numbers that round to it; `closed` tells whether the ends belong to it. -/
structure RoundingInterval where
  value : Nat
  below : Nat
  above : Nat
  unit : Nat
  closed : Bool

/-- The numbers that round to `significand · 2 ^ exponent`.  The gap below a power of two is half
as wide as the gap above it. -/
def roundingInterval (significand : Nat) (exponent : Int) : RoundingInterval :=
  let narrow := significand = Nat.pow 2 (Double.precision - 1) ∧ Double.minExponent < exponent
  let scale := if 0 ≤ exponent then Nat.pow 2 exponent.toNat else 1
  let unit := if 0 ≤ exponent then 1 else Nat.pow 2 (-exponent).toNat
  { value := 4 * significand * scale
    below := (if narrow then 1 else 2) * scale
    above := 2 * scale
    unit := 4 * unit
    closed := significand % 2 == 0 }

namespace RoundingInterval

/-- The distance of `point / unit` from the number, if the point is inside the interval. -/
def distance? (i : RoundingInterval) (point : Nat) : Option Nat :=
  if point ≤ i.value then
    let gap := i.value - point
    if gap < i.below || (i.closed && gap == i.below) then some gap else none
  else
    let gap := point - i.value
    if gap < i.above || (i.closed && gap == i.above) then some gap else none

/-- The interval with every quantity multiplied. -/
def scale (i : RoundingInterval) (factor : Nat) : RoundingInterval :=
  { i with value := i.value * factor, below := i.below * factor, above := i.above * factor }

/-- The multiple of `10 ^ place` inside the interval that is nearest to the number, as the factor
of that power; an equally near pair gives the even one. -/
def nearestMultiple? (i : RoundingInterval) (place : Int) : Option Nat :=
  let i := if 0 ≤ place then i else i.scale (Nat.pow 10 (-place).toNat)
  let step := i.unit * (if 0 ≤ place then Nat.pow 10 place.toNat else 1)
  let low := i.value / step
  match i.distance? (low * step), i.distance? ((low + 1) * step) with
  | some a, some b =>
    if a < b then some low else if b < a then some (low + 1) else some (low + low % 2)
  | some _, none => some low
  | none, some _ => some (low + 1)
  | none, none => none

/-- The first multiple found when the place moves down from `place`, and its place. -/
def search (i : RoundingInterval) : Nat → Int → Nat × Int
  | 0, place => ((i.nearestMultiple? place).getD 0, place)
  | fuel + 1, place =>
    match i.nearestMultiple? place with
    | some m => (m, place)
    | none => i.search fuel (place - 1)

/-- A place at or above that of the number's first digit. -/
def topPlace (i : RoundingInterval) : Int :=
  if i.unit ≤ i.value then ((digits (i.value / i.unit)).length : Int) - 1
  else 1 - ((digits (i.unit / i.value)).length : Int)

end RoundingInterval

/-- The fewest digits that read back as `significand · 2 ^ exponent`, of a positive number, and
the place of the decimal point counted from before the first digit.  Seventeen digits always
suffice. -/
def shortestDigits (significand : Nat) (exponent : Int) : List Char × Int :=
  let i := roundingInterval significand exponent
  let (coefficient, place) := i.search 18 i.topPlace
  let written := digits coefficient
  let kept := Text.dropEndWhile (· == '0') written
  (kept, place + (written.length : Int))

/-- Digits in positional notation, with at least one digit on each side of the point. -/
def positional (ds : List Char) (point : Int) : List Char :=
  if point ≤ 0 then '0' :: '.' :: (List.replicate (-point).toNat '0' ++ ds)
  else
    let n := point.toNat
    let whole := ds.take n ++ List.replicate (n - ds.length) '0'
    let rest := ds.drop n
    whole ++ '.' :: (if rest.isEmpty then ['0'] else rest)

/-- Digits in scientific notation: one digit before the point, none after it if there is only
one, and an exponent with a sign and at least two digits. -/
def scientific (ds : List Char) (point : Int) : List Char :=
  let exponent := point - 1
  let mark := if exponent < 0 then '-' else '+'
  let written := digits exponent.natAbs
  let written := if written.length < 2 then '0' :: written else written
  let mantissa :=
    match ds with
    | first :: second :: rest => first :: '.' :: second :: rest
    | ds => ds
  mantissa ++ 'e' :: mark :: written

/-- The shortest notation of a finite number: positional from `0.0001` up to sixteen digits before
the point, scientific beyond. -/
def shortest (negative : Bool) (significand : Nat) (exponent : Int) : List Char :=
  let unsigned :=
    if significand = 0 then ['0', '.', '0']
    else
      let (ds, point) := shortestDigits significand exponent
      if -4 < point && point ≤ 16 then positional ds point else scientific ds point
  if negative then '-' :: unsigned else unsigned

end SuiteCompiler.Number
