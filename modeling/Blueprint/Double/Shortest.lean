/-
# The shortest decimal that reads back

A positive double stands for every real number that rounds to it: an interval around it,
whose ends belong to it when the significand is even.  Among the decimal numbers of that
interval those with the fewest digits are taken, and of these the nearest to the double;
of two equally near the one whose last digit is even.

If a point of a decimal grid lies in the interval, then so does one of the two neighbours
of the double on that grid, so only these are tried, for 1, 2, … 17 digits.
-/
import Blueprint.Double.Basic

namespace Blueprint.Double

/-- The number of decimal digits; zero has none. -/
def digitCount (n : Nat) : Nat :=
  if n = 0 then 0 else (Nat.toDigits 10 n).length

/-- The exponent `p` with `10 ^ p ≤ num / den < 10 ^ (p + 1)`. -/
def decimalExponent (num den : Nat) : Int :=
  if den ≤ num then (digitCount (num / den) : Int) - 1 else -(digitCount ((den - 1) / num) : Int)

/-- The numbers that round to a double, over a common denominator: both ends, the double itself,
and whether the ends belong. -/
structure Neighbourhood where
  /-- The lower end. -/
  low : Nat
  /-- The double itself. -/
  value : Nat
  /-- The upper end. -/
  high : Nat
  /-- The common denominator. -/
  den : Nat
  /-- Whether the ends round to the double as well. -/
  closed : Bool

/-- The neighbourhood of `significand * 2 ^ exponent`, in quarters of its last bit.  Below a power
of two the next double is only half as far as above it. -/
def neighbourhood (significand : Nat) (exponent : Int) : Neighbourhood :=
  let low :=
    if significand = Nat.pow 2 52 ∧ exponent ≠ -1074 then 4 * significand - 1
    else 4 * significand - 2
  let scale := exponent - 2
  let up := Nat.pow 2 scale.toNat
  let den := Nat.pow 2 (-scale).toNat
  { low := low * up, value := 4 * significand * up, high := (4 * significand + 2) * up, den,
    closed := significand % 2 == 0 }

/-- Whether the fraction `num / den` rounds to the double. -/
def Neighbourhood.contains (hood : Neighbourhood) (num den : Nat) : Bool :=
  if hood.closed then
    decide (hood.low * den ≤ num * hood.den) && decide (num * hood.den ≤ hood.high * den)
  else
    decide (hood.low * den < num * hood.den) && decide (num * hood.den < hood.high * den)

/-- The number `point * 10 ^ exponent` as a fraction. -/
def gridPoint (point : Nat) (exponent : Int) : Nat × Nat :=
  (point * Nat.pow 10 exponent.toNat, Nat.pow 10 (-exponent).toNat)

/-- The better neighbour on the grid of step `10 ^ exponent`, if one of the two reads back. -/
def Neighbourhood.onGrid? (hood : Neighbourhood) (exponent : Int) : Option Nat :=
  let num := hood.value * Nat.pow 10 (-exponent).toNat
  let den := hood.den * Nat.pow 10 exponent.toNat
  let below := num / den
  let reads := fun point => let (n, d) := gridPoint point exponent; hood.contains n d
  match reads below, reads (below + 1) with
  | true, false => some below
  | false, true => some (below + 1)
  | false, false => none
  | true, true =>
    let rest := 2 * (num % den)
    if rest < den then some below
    else if den < rest then some (below + 1)
    else if below % 2 = 0 then some below else some (below + 1)

/-- The first hit on the grids with `digits`, `digits + 1`, … digits, as a whole number and a
power of ten. -/
def Neighbourhood.search (hood : Neighbourhood) (leading : Int) : Nat → Nat → Option (Nat × Int)
  | 0, _ => none
  | fuel + 1, digits =>
    let exponent := leading - digits + 1
    match hood.onGrid? exponent with
    | some point => some (point, exponent)
    | none => search hood leading fuel (digits + 1)

/-- The fewest digits, and the power of ten they are multiplied with, that read back as
`significand * 2 ^ exponent`.  Seventeen digits always do. -/
def shortest (significand : Nat) (exponent : Int) : Nat × Int :=
  let hood := neighbourhood significand exponent
  let leading := decimalExponent hood.value hood.den
  (hood.search leading 17 1).getD (0, 0)

end Blueprint.Double
