namespace LivePreview

/-! Double-precision numbers as exact fractions: a sign, a significand below `2 ^ 53` and a power
of two.  Every operation computes the exact result and rounds it once, ties to even. -/

/-- The magnitude `significand * 2 ^ exponent`, or zero. -/
structure Magnitude where
  significand : Nat
  exponent : Int
deriving DecidableEq, Repr

namespace Magnitude

/-- Exponents from here up to `largestExponent` can be stored. -/
def smallestExponent : Int := -1074

def largestExponent : Int := 971

/-- The least significand with all 53 digits. -/
def leastNormal : Nat := Nat.pow 2 52

def zero : Magnitude := ⟨0, smallestExponent⟩

instance : Inhabited Magnitude := ⟨zero⟩

def isZero (value : Magnitude) : Bool :=
  value.significand == 0

/-- The quotient's integer part, moved up by one when the remainder is above a half, or is a half
and the integer part is odd. -/
def roundedQuotient (numerator denominator : Nat) : Nat :=
  let quotient := numerator / denominator
  let twice := 2 * (numerator % denominator)
  if denominator < twice ∨ (twice = denominator ∧ quotient % 2 = 1) then quotient + 1
  else quotient

/-- `numerator / denominator / 2 ^ exponent` as a pair of naturals. -/
def scaled (numerator denominator : Nat) (exponent : Int) : Nat × Nat :=
  if 0 ≤ exponent then (numerator, denominator * Nat.pow 2 exponent.toNat)
  else (numerator * Nat.pow 2 (-exponent).toNat, denominator)

/-- The exponent at which the quotient has 53 binary digits, or the smallest one. -/
def exponentFor (numerator denominator : Nat) : Int :=
  let guess : Int := Int.ofNat numerator.log2 - Int.ofNat denominator.log2 - 52
  let (top, bottom) := scaled numerator denominator guess
  max smallestExponent (if top / bottom < leastNormal then guess - 1 else guess)

/-- The magnitude nearest to a fraction, or `none` beyond the largest one. -/
def ofFraction (numerator denominator : Nat) : Option Magnitude :=
  if numerator = 0 then some zero
  else
    let exponent := exponentFor numerator denominator
    let (top, bottom) := scaled numerator denominator exponent
    let significand := roundedQuotient top bottom
    let (significand, exponent) :=
      if significand = 2 * leastNormal then (leastNormal, exponent + 1) else (significand, exponent)
    if largestExponent < exponent then none
    else if significand = 0 then some zero
    else some ⟨significand, exponent⟩

def toFraction (value : Magnitude) : Nat × Nat :=
  if 0 ≤ value.exponent then (value.significand * Nat.pow 2 value.exponent.toNat, 1)
  else (value.significand, Nat.pow 2 (-value.exponent).toNat)

def ofNat (value : Nat) : Option Magnitude :=
  ofFraction value 1

def mul (left right : Magnitude) : Option Magnitude :=
  let (a, b) := left.toFraction
  let (c, d) := right.toFraction
  ofFraction (a * c) (b * d)

def div (left right : Magnitude) : Option Magnitude :=
  let (a, b) := left.toFraction
  let (c, d) := right.toFraction
  ofFraction (a * d) (b * c)

@[simp] theorem ofFraction_zero (denominator : Nat) : ofFraction 0 denominator = some zero := by
  simp [ofFraction]

end Magnitude

/-- A double-precision number other than the infinities and the undefined ones. -/
structure Binary64 where
  negative : Bool
  magnitude : Magnitude
deriving DecidableEq, Repr, Inhabited

namespace Binary64

def negativeZero : Binary64 := ⟨true, .zero⟩

end Binary64

end LivePreview
