import ScriptLexer.Number.Decimal

set_option autoImplicit false

/-! # Numerals

A numeral of the language is a run of digits, which a point and a second run of digits may
follow. Only the ten ASCII digits count. A point that no digit follows is not part of it. -/

namespace ScriptLexer

/-- The digits of a numeral. -/
structure Numeral where
  /-- The digits before the point. -/
  whole : Text
  /-- The digits after the point; without them there is no point either. -/
  fraction : Text
deriving DecidableEq, Repr

namespace Numeral

/-- How the numeral is written. -/
def lexeme (numeral : Numeral) : Text :=
  if numeral.fraction.isEmpty then numeral.whole
  else numeral.whole ++ '.' :: numeral.fraction

/-- The digits after a point at the front of a text. -/
def fractionAtFront : Text → Text
  | '.' :: rest => rest.takeWhile Char.isDigit
  | _ => []

/-- The longest numeral at the front of a text. -/
def atFront? (text : Text) : Option Numeral :=
  let whole := text.takeWhile Char.isDigit
  if whole.isEmpty then none
  else some ⟨whole, fractionAtFront (text.dropWhile Char.isDigit)⟩

/-- The number that a numeral stands for. -/
def value (numeral : Numeral) : Number :=
  ⟨false, (Decimal.ofParts numeral.whole numeral.fraction).nearest⟩

end Numeral

end ScriptLexer
