import ScriptLexer.Number.Shortest

set_option autoImplicit false

/-! # Layout of numbers

How the digits of a number are set out. If the first digit stands for `10 ^ e` with
`-4 ≤ e < 16`, the number is written with a point in its place and at least one digit after
it; otherwise the point follows the first digit, and `e` is appended with its sign and at least
two digits. -/

namespace ScriptLexer

namespace Layout

/-- The least power of ten of the first digit that is written without an exponent. -/
def lowestPositional : Int := -4

/-- The least power of ten of the first digit that takes an exponent again. -/
def lowestScientific : Int := 16

/-- The digits with the point after the first `point` of them, zeros filling up. -/
def positional (digits : Text) (point : Int) : Text :=
  match point with
  | .ofNat count =>
    if count = 0 then '0' :: '.' :: digits
    else
      let whole := digits.take count ++ List.replicate (count - digits.length) '0'
      let fraction := digits.drop count
      whole ++ '.' :: (if fraction.isEmpty then ['0'] else fraction)
  | .negSucc zeros => '0' :: '.' :: (List.replicate (zeros + 1) '0' ++ digits)

/-- An exponent with its sign and at least two digits. -/
def exponent (power : Int) : Text :=
  let digits := Text.ofNat power.natAbs
  'e' :: (if power < 0 then '-' else '+') :: (List.replicate (2 - digits.length) '0' ++ digits)

/-- The digits with the point after the first of them, and the power of ten of that digit. -/
def scientific (digits : Text) (power : Int) : Text :=
  let fraction := digits.drop 1
  digits.take 1 ++ (if fraction.isEmpty then [] else '.' :: fraction) ++ exponent power

end Layout

/-- The digits of a decimal without the zeros at their end. -/
def Decimal.significantDigits (decimal : Decimal) : Text :=
  Text.trimEnd (· == '0') (Text.ofNat decimal.coefficient)

/-- The power of ten of the first digit of a decimal. -/
def Decimal.leadingPower (decimal : Decimal) : Int :=
  decimal.exponent + (Text.ofNat decimal.coefficient).length - 1

/-- How a decimal is written. -/
def Decimal.text (decimal : Decimal) : Text :=
  let digits := decimal.significantDigits
  let power := decimal.leadingPower
  if digits.isEmpty then "0.0".toList
  else if Layout.lowestPositional ≤ power ∧ power < Layout.lowestScientific then
    Layout.positional digits (power + 1)
  else Layout.scientific digits power

/-- How a size is written. -/
def Magnitude.text : Magnitude → Text
  | .finite units => (Shortest.decimal units).text
  | .infinite => "inf".toList

/-- How a number is written. -/
def Number.text (number : Number) : Text :=
  if number.negative then '-' :: number.magnitude.text else number.magnitude.text

end ScriptLexer
