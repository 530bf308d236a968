import ScriptLexer.Text.Basic
import ScriptLexer.Number.Binary64

set_option autoImplicit false

/-! # Decimals

A decimal is a whole number times a power of ten. The file holds the decimals, the numbers
nearest to them, and the way from written digits to a decimal: with a sign, with or without a
point, with or without an exponent. -/

namespace ScriptLexer

/-- The decimal `coefficient * 10 ^ exponent`. -/
structure Decimal where
  /-- The digits, read as one whole number. -/
  coefficient : Nat
  /-- The power of ten that the whole number is multiplied by. -/
  exponent : Int
deriving DecidableEq, Repr

namespace Decimal

/-- The worth of a digit character. -/
def digitValue (c : Char) : Nat := c.toNat - '0'.toNat

/-- The whole number that digits spell, the first being the most significant. -/
def ofDigits (digits : Text) : Nat :=
  digits.foldl (fun value c => 10 * value + digitValue c) 0

/-- The size nearest to a decimal. -/
def nearest (decimal : Decimal) : Magnitude :=
  match decimal.exponent with
  | .ofNat zeros => .nearest (decimal.coefficient * Nat.pow 10 zeros) 1
  | .negSucc places => .nearest decimal.coefficient (Nat.pow 10 (places + 1))

/-- The decimal of the digits before and after a point. -/
def ofParts (whole fraction : Text) : Decimal :=
  ⟨ofDigits (whole ++ fraction), -(fraction.length : Int)⟩

/-- The exponent that stands at the end of a written decimal: nothing, or the letter and an
integer. -/
def exponentOfText? : Text → Option Int
  | [] => some 0
  | c :: rest =>
    if c = 'e' ∨ c = 'E' then
      let unsigned? (digits : Text) : Option Nat :=
        if digits.isEmpty || !digits.all Char.isDigit then none else some (ofDigits digits)
      match rest with
      | '-' :: digits => (unsigned? digits).map fun n => -(n : Int)
      | '+' :: digits => (unsigned? digits).map fun n => (n : Int)
      | digits => (unsigned? digits).map fun n => (n : Int)
    else none

/-- The decimal that a text without a sign spells. -/
def ofText? (text : Text) : Option Decimal :=
  let whole := text.takeWhile Char.isDigit
  let afterWhole := text.dropWhile Char.isDigit
  let (fraction, rest) :=
    match afterWhole with
    | '.' :: more => (more.takeWhile Char.isDigit, more.dropWhile Char.isDigit)
    | more => ([], more)
  if whole.isEmpty && fraction.isEmpty then none
  else
    (exponentOfText? rest).map fun exponent =>
      let decimal := ofParts whole fraction
      { decimal with exponent := decimal.exponent + exponent }

end Decimal

namespace Magnitude

/-- The words for an infinite size. -/
def infinityWords : List Text := ["inf".toList, "infinity".toList]

/-- The size that a text without a sign spells. -/
def ofText? (text : Text) : Option Magnitude :=
  if infinityWords.contains (text.map Char.toLower) then some .infinite
  else (Decimal.ofText? text).map Decimal.nearest

end Magnitude

namespace Number

/-- The number that a text spells. -/
def ofText? : Text → Option Number
  | '-' :: text => (Magnitude.ofText? text).map (⟨true, ·⟩)
  | '+' :: text => (Magnitude.ofText? text).map (⟨false, ·⟩)
  | text => (Magnitude.ofText? text).map (⟨false, ·⟩)

end Number

end ScriptLexer
