/-
# Double precision numbers

A finite double is a sign, a whole significand and a power of two.  Each number has one
canonical form: the significand has its full 53 bits unless the exponent is already the
least one.  With this every comparison below is one of whole numbers, and equality of
numbers is equality of forms, up to the two zeros and the number that is no number.
-/

namespace Blueprint

/-- The pairs of a significand and a binary exponent in canonical form. -/
def Double.Canonical (significand : Nat) (exponent : Int) : Prop :=
  significand < Nat.pow 2 53 ∧ -1074 ≤ exponent ∧ exponent ≤ 971 ∧
    (Nat.pow 2 52 ≤ significand ∨ exponent = -1074)

instance (significand : Nat) (exponent : Int) : Decidable (Double.Canonical significand exponent) :=
  inferInstanceAs (Decidable (_ ∧ _))

/-- A double precision number: not a number, an infinity, or `± significand * 2 ^ exponent`. -/
inductive Double where
  /-- Not a number. -/
  | nan
  /-- One of the two infinities. -/
  | infinity (negative : Bool)
  /-- A finite number in canonical form. -/
  | finite (negative : Bool) (significand : Nat) (exponent : Int)
      (canonical : Double.Canonical significand exponent)
deriving DecidableEq

namespace Double

/-- Zero with a sign. -/
def zero (negative : Bool) : Double :=
  .finite negative 0 (-1074) (by decide)

instance : Inhabited Double := ⟨zero false⟩

/-- Neither an infinity nor the number that is no number. -/
def isFinite : Double → Bool
  | .finite .. => true
  | _ => false

/-- Numerical equality: the two zeros are equal, and the number that is no number differs from
everything, itself included. -/
def numEq : Double → Double → Bool
  | .infinity a, .infinity b => a == b
  | .finite a m q _, .finite b n r _ => (m == 0 && n == 0) || (a == b && m == n && q == r)
  | _, _ => false

/-- Equality with a whole number, in exact arithmetic. -/
def eqInt : Double → Int → Bool
  | .finite negative m q _, i =>
    let signed : Int := if negative then -m else m
    if 0 ≤ q then signed * Int.pow 2 q.toNat == i else signed == i * Int.pow 2 (-q).toNat
  | _, _ => false

theorem numEq_self_iff {x : Double} : x.numEq x = true ↔ x ≠ .nan := by
  cases x <;> simp [numEq]

end Double

end Blueprint
