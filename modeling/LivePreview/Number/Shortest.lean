import LivePreview.Number.Binary64

namespace LivePreview

/-! The shortest decimal of a double: of the decimals that round to it, those with the fewest
digits, and of these the nearest. -/

/-- The number `digits * 10 ^ power`. -/
structure Decimal where
  digits : Nat
  power : Int
deriving DecidableEq, Repr

namespace Magnitude

/-- The reals that round to a magnitude, as numerators over one common denominator; the ends
belong to the interval when the significand is even. -/
structure Basin where
  low : Nat
  middle : Nat
  high : Nat
  denominator : Nat
  closed : Bool
deriving DecidableEq, Repr

/-- The neighbour below is at half the distance where the significand is the least one of its
exponent. -/
def basin (value : Magnitude) : Basin :=
  let below := if value.significand = leastNormal ∧ smallestExponent < value.exponent then 1 else 2
  let quarter := value.exponent - 2
  let factor := Nat.pow 2 quarter.toNat
  { low := (4 * value.significand - below) * factor
    middle := 4 * value.significand * factor
    high := (4 * value.significand + 2) * factor
    denominator := Nat.pow 2 (-quarter).toNat
    closed := value.significand % 2 == 0 }

namespace Basin

/-- `digits * 10 ^ power` as a numerator and a denominator. -/
def point (digits : Nat) (power : Int) : Nat × Nat :=
  if 0 ≤ power then (digits * Nat.pow 10 power.toNat, 1) else (digits, Nat.pow 10 (-power).toNat)

def holds (basin : Basin) (digits : Nat) (power : Int) : Bool :=
  let (numerator, denominator) := point digits power
  let place := numerator * basin.denominator
  let low := basin.low * denominator
  let high := basin.high * denominator
  if basin.closed then low ≤ place && place ≤ high else low < place && place < high

/-- The multiple of `10 ^ power` next below the middle. -/
def floor (basin : Basin) (power : Int) : Nat :=
  let (numerator, denominator) := point 1 power
  basin.middle * denominator / (basin.denominator * numerator)

/-- Twice the distance of the middle from the multiple below it, against the grid's width. -/
def nearer (basin : Basin) (power : Int) (below : Nat) : Ordering :=
  let (numerator, denominator) := point 1 power
  let rest := basin.middle * denominator - below * (basin.denominator * numerator)
  compare (2 * rest) (basin.denominator * numerator)

/-- The point of the grid of `10 ^ power` that rounds to the middle; the nearer of two, and the
even one of two at the same distance. -/
def pick? (basin : Basin) (power : Int) : Option Nat :=
  let below := basin.floor power
  match basin.holds below power, basin.holds (below + 1) power with
  | false, false => none
  | true, false => some below
  | false, true => some (below + 1)
  | true, true =>
    match basin.nearer power below with
    | .lt => some below
    | .gt => some (below + 1)
    | .eq => some (if below % 2 = 0 then below else below + 1)

/-- The coarsest grid with a hit, among `count` grids from `power` downwards. -/
def search (basin : Basin) : Nat → Int → Decimal
  | 0, power => ⟨basin.floor power, power⟩
  | count + 1, power =>
    match basin.pick? power with
    | some digits => ⟨digits, power⟩
    | none => basin.search count (power - 1)

end Basin

/-- A power of ten above the number's order of magnitude. -/
def coarsestPower (basin : Basin) : Int :=
  Int.ofNat (Nat.toDigits 10 basin.middle).length -
    Int.ofNat (Nat.toDigits 10 basin.denominator).length + 1

/-- Seventeen digits always suffice. -/
def shortest (value : Magnitude) : Decimal :=
  value.basin.search 20 (coarsestPower value.basin)

end Magnitude

/-- Where a decimal is written out in full: from `least` up to, not including, `bound`, counted in
the exponent of its first digit. -/
structure DecimalLayout where
  least : Int
  bound : Int

namespace DecimalLayout

def exponentText (exponent : Int) : List Char :=
  if exponent < 0 then '-' :: Nat.toDigits 10 (-exponent).toNat
  else '+' :: Nat.toDigits 10 exponent.toNat

def pointed (digits : List Char) (places : Int) : List Char :=
  if places ≤ 0 then
    ['0', '.'] ++ List.replicate (-places).toNat '0' ++ digits
  else
    let whole := places.toNat
    if digits.length ≤ whole then
      digits ++ List.replicate (whole - digits.length) '0' ++ ['.', '0']
    else
      digits.take whole ++ '.' :: digits.drop whole

def scientific (digits : List Char) (exponent : Int) : List Char :=
  match digits with
  | [] => []
  | [digit] => digit :: 'e' :: exponentText exponent
  | digit :: more => digit :: '.' :: more ++ 'e' :: exponentText exponent

def write (layout : DecimalLayout) (value : Decimal) : List Char :=
  let digits := Nat.toDigits 10 value.digits
  let exponent := Int.ofNat digits.length - 1 + value.power
  if layout.least ≤ exponent ∧ exponent < layout.bound then pointed digits (exponent + 1)
  else scientific digits exponent

end DecimalLayout

end LivePreview
