/-
# Quotations

A text is quoted between two marks: apostrophes, unless the text holds an apostrophe and no
double quote.  Within the marks the mark itself and the backslash are escaped by a
backslash, tab, line feed and carriage return have letters, and every other point that
is not a printable character is written by its code point in hexadecimal, as short as a two, four or
eight digit form allows.  Bytes are quoted by the same rules after a `b`, and none outside
the printable basic Latin range stands for itself.
-/
import Blueprint.Text.Basic
import Blueprint.Text.Printable

namespace Blueprint.Text

/-- The mark a sequence of points is quoted with. -/
def quoteMark (points : List Point) : Char :=
  if points.contains (.char '\'') && !points.contains (.char '"') then '"' else '\''

/-- The low `width` hexadecimal digits of a number, in lower case. -/
def hexDigits (width n : Nat) : List Char :=
  match width with
  | 0 => []
  | width + 1 => hexDigits width (n / 16) ++ [Nat.digitChar (n % 16)]

/-- A character by its code point. -/
def codeEscape (n : Nat) : List Char :=
  if n ≤ 0xff then '\\' :: 'x' :: hexDigits 2 n
  else if n ≤ 0xffff then '\\' :: 'u' :: hexDigits 4 n
  else '\\' :: 'U' :: hexDigits 8 n

/-- One character as it stands within quotation marks. -/
def escapeChar (mark c : Char) : List Char :=
  if c == mark || c == '\\' then ['\\', c]
  else if c == '\t' then ['\\', 't']
  else if c == '\n' then ['\\', 'n']
  else if c == '\r' then ['\\', 'r']
  else if isPrintable c then [c]
  else codeEscape c.toNat

/-- One point as it stands within quotation marks. -/
def escapePoint (mark : Char) : Point → List Char
  | .char c => escapeChar mark c
  | .half unit => codeEscape (Point.half unit).code

/-- Points between quotation marks. -/
def quotePoints (points : List Point) : List Char :=
  let mark := quoteMark points
  mark :: (points.flatMap (escapePoint mark) ++ [mark])

/-- A text between quotation marks. -/
def quote (t : Text) : Text :=
  ofChars (quotePoints t.points)

/-- One byte as it stands within quotation marks. -/
def escapeByte (mark : Char) (b : UInt8) : List Char :=
  let c := Char.ofNat b.toNat
  if c == mark || c == '\\' then ['\\', c]
  else if c == '\t' then ['\\', 't']
  else if c == '\n' then ['\\', 'n']
  else if c == '\r' then ['\\', 'r']
  else if 0x20 ≤ b.toNat ∧ b.toNat < 0x7f then [c]
  else '\\' :: 'x' :: hexDigits 2 b.toNat

/-- Bytes between quotation marks. -/
def quoteBytes (bytes : List UInt8) : Text :=
  let mark := quoteMark (bytes.map fun b => .char (Char.ofNat b.toNat))
  ofChars ('b' :: mark :: (bytes.flatMap (escapeByte mark) ++ [mark]))

end Blueprint.Text
