import ScriptLexer.Number.Decimal

set_option autoImplicit false

/-! # Shortest decimals

A finite number is shown by the decimal with the fewest digits that reads back as it, and of
several such decimals by the one nearest to it. Decimals with a given number of digits form a
grid around the number, and if any point of the grid reads back then one of the number's two
neighbours on it does; so two candidates are tried for each grid, from the coarsest grid to the
one on which the number itself lies.

Every finite number is a multiple of `10 ^ (-1074)`, and the file counts in this unit. -/

namespace ScriptLexer.Shortest

/-- A finite size in units of `10 ^ (-1074)`. -/
def exactly (units : Nat) : Nat := units * Nat.pow 5 1074

/-- The point of a grid reads back as the size: the grid has the steps `10 ^ grid`, counted in
units of `10 ^ (-1074)`. -/
def readsBack (units grid point : Nat) : Bool :=
  Decimal.nearest ⟨point, (grid : Int) - 1074⟩ == .finite units

/-- The point of a grid that shows the size, if one reads back: the nearer one of its two
neighbours, and the even one if both are equally near. -/
def onGrid (units grid : Nat) : Option Nat :=
  let step := Nat.pow 10 grid
  let low := exactly units / step
  let below := 2 * (exactly units % step)
  match readsBack units grid low, readsBack units grid (low + 1) with
  | true, true =>
    if below < step then some low
    else if step < below then some (low + 1)
    else some (low + low % 2)
  | true, false => some low
  | false, true => some (low + 1)
  | false, false => none

/-- The shortest decimal that reads back as a finite size. -/
def decimal (units : Nat) : Decimal :=
  let width := (Text.ofNat (exactly units)).length
  let found := (List.range width).findSome? fun coarse =>
    let grid := width - 1 - coarse
    (onGrid units grid).map fun point => (⟨point, (grid : Int) - 1074⟩ : Decimal)
  found.getD ⟨exactly units, -1074⟩

end ScriptLexer.Shortest
