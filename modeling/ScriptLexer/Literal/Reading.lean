import ScriptLexer.Literal.Escape

set_option autoImplicit false

/-! # Reading of string literals

A string literal runs from an apostrophe to the next one that is not escaped. Its characters
are read slice by slice, a slice ending with a delimiter, that is an apostrophe or a line feed.
A delimiter is escaped if the run of backslashes just before it in its slice is odd. An escaped
delimiter belongs to the literal; any other apostrophe closes it, and any other line feed
breaks it, which is a fault that is pointed out at the start of the line break. -/

namespace ScriptLexer.Literal

/-- What is wrong with a literal. -/
inductive Fault where
  /-- The text ends before the literal does. -/
  | unterminated
  /-- The row ends before the literal does. -/
  | broken
deriving DecidableEq, Repr

/-- What is found after the apostrophe that opens a literal. -/
inductive Reading where
  /-- A literal: its slices, the last of them ending with the closing apostrophe. -/
  | closed (slices : List Text)
  /-- No literal: the characters that are passed before the fault shows. -/
  | faulty (fault : Fault) (passed : Text)
deriving DecidableEq, Repr

/-- A reading that has passed one more slice before. -/
def Reading.after (slice : Text) : Reading → Reading
  | .closed slices => .closed (slice :: slices)
  | .faulty fault passed => .faulty fault (slice ++ passed)

/-- The character ends a slice. -/
def isDelimiter (c : Char) : Bool := c == Text.apostrophe || c == Text.lineFeed

/-- A delimiter after these characters is escaped. -/
def isEscaped (characters : Text) : Bool :=
  (characters.reverse.takeWhile (· == Text.backslash)).length % 2 == 1

/-- The characters before a line break that starts with their last one if that is a carriage
return. -/
def beforeBreak (characters : Text) : Text :=
  if characters.getLast? = some Text.carriageReturn then characters.dropLast else characters

/-- What a delimiter starts is shorter than the text it is found in. -/
theorem length_rest_lt {text rest : Text} {c : Char}
    (h : text.dropWhile (!isDelimiter ·) = c :: rest) : rest.length < text.length := by
  have := (List.dropWhile_sublist (!isDelimiter ·) (l := text)).length_le
  rw [h, List.length_cons] at this
  omega

/-- Reads the text after the apostrophe that opens a literal. -/
def read (text : Text) : Reading :=
  let characters := text.takeWhile (!isDelimiter ·)
  match _h : text.dropWhile (!isDelimiter ·) with
  | [] => .faulty .unterminated text
  | delimiter :: rest =>
    if isEscaped characters then (read rest).after (characters ++ [delimiter])
    else if delimiter = Text.apostrophe then .closed [characters ++ [delimiter]]
    else .faulty .broken (beforeBreak characters)
termination_by text.length
decreasing_by exact length_rest_lt _h

/-- How a literal with the slices is written. -/
def lexeme (slices : List Text) : Text := Text.apostrophe :: slices.flatten

/-- What a literal with the slices stands for: its characters with the escape sequences
resolved, the apostrophes around them included. -/
def value (slices : List Text) : Text := Text.apostrophe :: slices.flatMap unescape

end ScriptLexer.Literal
