import ScriptLexer.Text.Basic

set_option autoImplicit false

/-! # Positions

A position is a row and a column, both counted from one. A position moves as text is passed:
a line feed leads to the first column of the next row, and any other character, a carriage
return included, to the next column. The numbers are integers, since a position can be moved
by any amount. -/

namespace ScriptLexer

/-- A place in a text. -/
structure Position where
  /-- The row, the first one being 1. -/
  row : Int
  /-- The column, the first one being 1. -/
  col : Int
deriving DecidableEq, Repr

namespace Position

/-- Where every text starts. -/
def start : Position := ⟨1, 1⟩

/-- The first column of a row further down. -/
def down (p : Position) (rows : Int) : Position := ⟨p.row + rows, 1⟩

/-- A column further to the right in the same row. -/
def right (p : Position) (cols : Int) : Position := ⟨p.row, p.col + cols⟩

/-- Where a text ends that starts at the position: as many rows further down as it has line
feeds, and past the characters after the last of them. -/
def past (p : Position) (text : Text) : Position :=
  let breaks := text.count Text.lineFeed
  if breaks = 0 then p.right text.length
  else (p.down breaks).right (text.reverse.takeWhile (· != Text.lineFeed)).length

/-- The row and the column with a colon between them. -/
def text (p : Position) : Text := Text.ofInt p.row ++ ':' :: Text.ofInt p.col

/-- How a position that is being moved is shown. -/
def cursorText (p : Position) : Text := "Cursor(".toList ++ p.text ++ [')']

end Position

end ScriptLexer
