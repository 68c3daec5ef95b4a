/-
  SuiteCompiler/Number/Double.lean
  ================================
  Binary floating-point numbers of 64 bits (IEEE 754), as exact values: a finite
  one is a significand times a power of two.  Decimal notation is rounded to the
  nearest such number, a half to the even significand.

  Powers are written `Nat.pow`, so that they mean the same whichever instances are
  in scope.
-/

namespace SuiteCompiler.Number

/-- A 64-bit binary floating-point number.  A finite one is `± significand · 2 ^ exponent`; in
the form that `Double.round` builds, the significand has 53 bits unless the exponent is
`Double.minExponent`. -/
inductive Double where
  | nan
  | infinite (negative : Bool)
  | finite (negative : Bool) (significand : Nat) (exponent : Int)
  deriving DecidableEq, Repr

namespace Double

/-- The number of bits of a full significand. -/
def precision : Nat := 53

/-- The exponent of the smallest numbers. -/
def minExponent : Int := -1074

/-- The exponent of the largest numbers. -/
def maxExponent : Int := 971

/-- The zero with a sign. -/
def zero (negative : Bool) : Double := .finite negative 0 minExponent

/-- Whether the number is a zero, of either sign. -/
def isZero : Double → Bool
  | .finite _ 0 _ => true
  | _ => false

/-- The quotient rounded to the nearest whole number, a half to the even one. -/
def roundHalfEven (num den : Nat) : Nat :=
  let q := num / den
  let r := num % den
  if 2 * r < den then q
  else if den < 2 * r then q + 1
  else q + q % 2

/-- The quotient of two numbers, each given as a natural number times a power of two, as a
fraction of natural numbers. -/
def scaled (num den : Nat) (shift : Int) : Nat × Nat :=
  if 0 ≤ shift then (num, den * Nat.pow 2 shift.toNat) else (num * Nat.pow 2 (-shift).toNat, den)

/-- The floating-point number nearest to the fraction `num / den` of positive numbers. -/
def round (negative : Bool) (num den : Nat) : Double :=
  let guess : Int := (num.log2 : Int) - (den.log2 : Int) - 53
  let guess := if guess < minExponent then minExponent else guess
  let (n, d) := scaled num den guess
  let exponent := if n / d < Nat.pow 2 precision then guess else guess + 1
  let (n, d) := scaled num den exponent
  let significand := roundHalfEven n d
  let (significand, exponent) :=
    if significand = Nat.pow 2 precision then (Nat.pow 2 (precision - 1), exponent + 1)
    else (significand, exponent)
  if maxExponent < exponent then .infinite negative
  else .finite negative significand exponent

/-- The floating-point number nearest to `± coefficient · 10 ^ exponent`.  The comparisons with
the number of digits keep the powers small: beyond these bounds the answer is known. -/
def ofDecimal (negative : Bool) (coefficient : Nat) (exponent : Int) : Double :=
  if coefficient = 0 then zero negative
  else
    let magnitude : Int := (Nat.toDigits 10 coefficient).length + exponent
    if 400 < magnitude then .infinite negative
    else if magnitude < -400 then zero negative
    else if 0 ≤ exponent then round negative (coefficient * Nat.pow 10 exponent.toNat) 1
    else round negative coefficient (Nat.pow 10 (-exponent).toNat)

/-- The whole number that remains when the places after the point are cut off, of a finite
number. -/
def truncate (negative : Bool) (significand : Nat) (exponent : Int) : Int :=
  let magnitude : Nat :=
    if 0 ≤ exponent then significand * Nat.pow 2 exponent.toNat
    else significand / Nat.pow 2 (-exponent).toNat
  if negative then -(magnitude : Int) else magnitude

/-- The whole number that equals a finite number, if one does. -/
def integer? : Double → Option Int
  | .finite negative significand exponent =>
    if 0 ≤ exponent || significand % Nat.pow 2 (-exponent).toNat == 0 then
      some (truncate negative significand exponent)
    else none
  | _ => none

end Double

end SuiteCompiler.Number
