/-
# Decimal notation of doubles

A finite double is written with the fewest digits that read back.  Numbers from `0.0001`
up to, but not including, `10 ^ 16` are positional and always show a decimal point; all
others have an exponent of at least two digits with its sign.  The reader accepts more
than the writer produces: any decimal numeral, with or without point and exponent.
-/
import Blueprint.Double.Rounding
import Blueprint.Double.Shortest

namespace Blueprint.Double

/-- How a decimal number is laid out. -/
structure Layout where
  /-- Positional notation from this decimal exponent on … -/
  leastPositional : Int
  /-- … and up to this one, included. -/
  greatestPositional : Int
  /-- The exponent is padded with zeros to this many digits. -/
  exponentDigits : Nat
  /-- Written before the exponent. -/
  exponentMark : String
  /-- Written after a whole number in positional notation. -/
  wholeSuffix : String

/-- Numbers from `0.0001` to below `10 ^ 16` are positional, a whole number ends in `.0`, and an
exponent has a sign and at least two digits. -/
def layout : Layout :=
  { leastPositional := -4, greatestPositional := 15, exponentDigits := 2, exponentMark := "e",
    wholeSuffix := ".0" }

/-- The decimal digits of a number, most significant first. -/
def digitsOf (n : Nat) : List Char :=
  Nat.toDigits 10 n

/-- The digits without the zeros at their end, at least one digit. -/
def trimZeros (digits : List Char) : List Char :=
  match (digits.reverse.dropWhile (· == '0')).reverse with
  | [] => ['0']
  | kept => kept

/-- The digits of a number below one need zeros after the point, those of a large whole number
zeros before it. -/
def positional (format : Layout) (digits : List Char) (exponent : Int) : List Char :=
  let point := exponent + 1
  if point ≤ 0 then
    '0' :: '.' :: (List.replicate (-point).toNat '0' ++ digits)
  else if digits.length ≤ point.toNat then
    digits ++ List.replicate (point.toNat - digits.length) '0' ++ format.wholeSuffix.toList
  else
    digits.take point.toNat ++ '.' :: digits.drop point.toNat

/-- One digit, the others after a point, and the exponent. -/
def scientific (format : Layout) (digits : List Char) (exponent : Int) : List Char :=
  let magnitude := digitsOf exponent.natAbs
  let padded := List.replicate (format.exponentDigits - magnitude.length) '0' ++ magnitude
  let mantissa :=
    match digits with
    | [] => []
    | [d] => [d]
    | d :: rest => d :: '.' :: rest
  mantissa ++ format.exponentMark.toList ++ (if exponent < 0 then '-' else '+') :: padded

/-- The text of a finite number without its sign. -/
def magnitudeText (format : Layout) (significand : Nat) (exponent : Int) : List Char :=
  if significand = 0 then '0' :: format.wholeSuffix.toList
  else
    let (point, power) := shortest significand exponent
    let all := digitsOf point
    let digits := trimZeros all
    let leading := power + all.length - 1
    if format.leastPositional ≤ leading ∧ leading ≤ format.greatestPositional then
      positional format digits leading
    else scientific format digits leading

/-- The text of a double. -/
def toText : Double → String
  | .nan => "nan"
  | .infinity negative => if negative then "-inf" else "inf"
  | .finite negative m q _ =>
    String.ofList ((if negative then ['-'] else []) ++ magnitudeText layout m q)

/-- The value of a run of basic digits. -/
def digitsValue (digits : List Char) : Nat :=
  digits.foldl (fun value c => 10 * value + (c.toNat - '0'.toNat)) 0

/-- The double written by digits, digits after a point and a decimal exponent. -/
def ofParts (negative : Bool) (whole fraction : List Char) (exponent : Int) : Double :=
  ofDecimal negative (digitsValue (whole ++ fraction)) (exponent - fraction.length)

/-- Reads an exponent: a mark, a sign or none, and digits. -/
def exponentOfText? : List Char → Option Int
  | [] => some 0
  | mark :: rest =>
    if mark == 'e' || mark == 'E' then
      let (negative, digits) :=
        match rest with
        | '-' :: ds => (true, ds)
        | '+' :: ds => (false, ds)
        | ds => (false, ds)
      if digits.isEmpty || !digits.all Char.isDigit then none
      else some (if negative then -(digitsValue digits : Int) else digitsValue digits)
    else none

/-- Reads a decimal numeral without a sign. -/
def magnitudeOfText? (negative : Bool) (text : List Char) : Option Double :=
  let whole := text.takeWhile Char.isDigit
  let rest := text.dropWhile Char.isDigit
  let (fraction, rest) :=
    match rest with
    | '.' :: more => (more.takeWhile Char.isDigit, more.dropWhile Char.isDigit)
    | _ => ([], rest)
  if whole.isEmpty && fraction.isEmpty then none
  else (exponentOfText? rest).map (ofParts negative whole fraction)

/-- Reads a decimal numeral, `inf` or `nan`, with a sign or none. -/
def ofText? (text : String) : Option Double :=
  let (negative, body) :=
    match text.toList with
    | '-' :: rest => (true, rest)
    | '+' :: rest => (false, rest)
    | all => (false, all)
  if body == "inf".toList then some (.infinity negative)
  else if body == "nan".toList then some .nan
  else magnitudeOfText? negative body

end Blueprint.Double
