/-
# Positions written in digits

The arguments of a call can be keyed by their positions, written in the decimal digits of any
script.  A key has to consist of digits in the wider sense; whether those make a numeral is a
second question, and so is whether the numeral is short enough to be read.
-/
import Blueprint.Failure
import Blueprint.Text.Digit

namespace Blueprint.Position

/-- Whether a key is made of digits, in the wider sense, and not empty. -/
def isKey (key : Text) : Bool :=
  !key.isEmpty && key.points.all (Point.isIn Text.isDigit)

/-- The position that digits stand for. -/
def ofDigits (key : Text) : Except Failure Nat :=
  let digits := key.points.takeWhile fun p => (Text.decimalPoint? p).isSome
  if Json.Reader.digitLimit < digits.length then .error (.longNumber (some digits.length))
  else
    match Text.decimal? key with
    | some n => .ok n
    | none => .error (.notDecimal key)

/-- A name that stands for a position after its first letter, as in `p1`. -/
def ofName (name : Text) : Except Failure Nat :=
  match name.points with
  | .char 'p' :: digits =>
    if isKey ⟨digits⟩ then ofDigits ⟨digits⟩ else .error (.positionName name)
  | _ => .error (.positionName name)

end Blueprint.Position
