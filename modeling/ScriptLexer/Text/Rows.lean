import ScriptLexer.Text.Basic

set_option autoImplicit false

/-! # Rows of a text

Two views of a text as rows. In a program, only a line feed ends a row, and a diagnostic shows
the row around an index without the carriage returns at its end. At the prompt, a line feed, a
carriage return or the pair of them ends a line. -/

namespace ScriptLexer.Text

/-- The row around an index: the characters before it back to the last line feed, those from
it on up to the next, and none of the carriage returns at the end. An index beyond the text
lies in the last row. -/
def rowAt (text : Text) (index : Nat) : Text :=
  let before := ((text.take index).reverse.takeWhile (· != lineFeed)).reverse
  let after := (text.drop index).takeWhile (· != lineFeed)
  trimEnd (· == carriageReturn) (before ++ after)

/-- The lines of a text without the breaks that end them, each break being a line feed, a
carriage return or a carriage return with a line feed. What follows the last break is a line
if it is not empty. -/
def lines : Text → List Text
  | [] => []
  | '\r' :: '\n' :: rest => [] :: lines rest
  | '\r' :: rest => [] :: lines rest
  | '\n' :: rest => [] :: lines rest
  | c :: rest =>
    match lines rest with
    | [] => [[c]]
    | line :: more => (c :: line) :: more

end ScriptLexer.Text
