/-
# The double nearest to a decimal number

`nearest` rounds a positive fraction to the nearest double, a tie going to the even
significand, and `ofDecimal` reads `± digits * 10 ^ exponent` in this way.  All of it is
exact arithmetic on whole numbers.  Exponents that are out of every double's reach are
settled before the power of ten is computed, so that a short numeral cannot ask for a
huge number.
-/
import Blueprint.Double.Basic

namespace Blueprint.Double

/-- The whole number nearest to `num / den`, a tie going to the even neighbour. -/
def roundHalfEven (num den : Nat) : Nat :=
  let below := num / den
  let rest := 2 * (num % den)
  if rest < den then below
  else if den < rest then below + 1
  else if below % 2 = 0 then below else below + 1

/-- The fraction `num / den` divided by `2 ^ exponent`, as numerator and denominator. -/
def scaleDown (num den : Nat) (exponent : Int) : Nat × Nat :=
  if 0 ≤ exponent then (num, den * Nat.pow 2 exponent.toNat)
  else (num * Nat.pow 2 (-exponent).toNat, den)

/-- The exponent for which `num / den` has a significand of 53 bits, or the least exponent. -/
def exponentFor (num den : Nat) : Int :=
  let guess : Int := (num.log2 : Int) - (den.log2 : Int) - 52
  let (n, d) := scaleDown num den guess
  max (-1074) (if n / d < Nat.pow 2 52 then guess - 1 else guess)

/-- The canonical form of a rounded significand, which may have one bit too many; infinity when
the exponent is beyond the largest. -/
def ofRounded (negative : Bool) (significand : Nat) (exponent : Int) : Double :=
  let (m, q) :=
    if significand = Nat.pow 2 53 then (Nat.pow 2 52, exponent + 1) else (significand, exponent)
  if h : Canonical m q then .finite negative m q h else .infinity negative

/-- The double nearest to the fraction `± num / den`. -/
def nearest (negative : Bool) (num den : Nat) : Double :=
  if num = 0 then zero negative
  else
    let exponent := exponentFor num den
    let (n, d) := scaleDown num den exponent
    ofRounded negative (roundHalfEven n d) exponent

/-- The double nearest to `± digits * 10 ^ exponent`.  As `8 ^ k ≤ 10 ^ k`, the first two cases
hold only numbers beyond the largest double and below half of the smallest. -/
def ofDecimal (negative : Bool) (digits : Nat) (exponent : Int) : Double :=
  if digits = 0 then zero negative
  else if 0 ≤ exponent ∧ 1024 ≤ (digits.log2 : Int) + 3 * exponent then .infinity negative
  else if exponent < 0 ∧ (digits.log2 : Int) + 1 + 3 * exponent ≤ -1075 then zero negative
  else if 0 ≤ exponent then nearest negative (digits * Nat.pow 10 exponent.toNat) 1
  else nearest negative digits (Nat.pow 10 (-exponent).toNat)

end Blueprint.Double
