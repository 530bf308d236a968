set_option autoImplicit false

/-! # Binary64 numbers

A finite double is a whole multiple of the smallest positive one, `2 ^ (-1074)`, so its size is
held exactly as the natural number of these units. The file fixes that type and the rule by
which a fraction becomes a number: the nearest one with 53 significant bits, of two equally
near ones the even one, and infinity from halfway beyond the largest finite number on. -/

namespace ScriptLexer

/-- The size of a number, its sign left out. -/
inductive Magnitude where
  /-- So many units of `2 ^ (-1074)`. -/
  | finite (units : Nat)
  /-- Beyond every finite number. -/
  | infinite
deriving DecidableEq, Repr

/-- A binary64 number other than the not-a-numbers. -/
structure Number where
  /-- The sign, which zero has too. -/
  negative : Bool
  /-- The size. -/
  magnitude : Magnitude
deriving DecidableEq, Repr

/-- The quotient rounded to a whole number, a half to the even neighbour. -/
def roundHalfEven (numerator denominator : Nat) : Nat :=
  let quotient := numerator / denominator
  let rest := 2 * (numerator % denominator)
  if rest < denominator then quotient
  else if denominator < rest then quotient + 1
  else quotient + quotient % 2

namespace Magnitude

/-- How many units make one. -/
def unitsPerOne : Nat := Nat.pow 2 1074

/-- The number of units from which a size is infinite, `2 ^ 1024` in all. -/
def unitLimit : Nat := Nat.pow 2 2098

/-- The distance between neighbours near a size of so many whole units: one unit as long as 53
bits hold it, then the power of two that leaves 53 bits. -/
def spacing (units : Nat) : Nat := Nat.pow 2 (units.log2 - 52)

/-- The size nearest to a fraction with a positive denominator. -/
def nearest (numerator denominator : Nat) : Magnitude :=
  let scaled := numerator * unitsPerOne
  let step := spacing (scaled / denominator)
  let units := roundHalfEven scaled (denominator * step) * step
  if units < unitLimit then .finite units else .infinite

end Magnitude

namespace Number

/-- Equality of values: the two zeros are one value. -/
def same (a b : Number) : Bool :=
  a == b || (a.magnitude == .finite 0 && b.magnitude == .finite 0)

end Number

end ScriptLexer
