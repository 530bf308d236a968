import ScriptLexer.Text.Basic

set_option autoImplicit false

/-! # Ranges of code points

A property of characters is written down as the list of the ranges of code points that have
it. Membership is read off such a list. -/

namespace ScriptLexer

/-- The code points from `first` to `last`, both included. -/
structure CodeRange where
  /-- The lowest code point of the range. -/
  first : Nat
  /-- The highest code point of the range. -/
  last : Nat
deriving DecidableEq, Repr

namespace CodeRange

/-- The character lies in the range. -/
def covers (range : CodeRange) (c : Char) : Bool :=
  decide (range.first ≤ c.toNat) && decide (c.toNat ≤ range.last)

/-- The character lies in one of the ranges. -/
def anyCovers (ranges : List CodeRange) (c : Char) : Bool :=
  ranges.any (·.covers c)

end CodeRange

end ScriptLexer
