import ScriptLexer.Text.Printable

set_option autoImplicit false

/-! # Quoted texts

A quoted text shows any text on one line: between two marks, with the characters that would
end the line, end the quotation or not be seen at all written as escape sequences that start
with a backslash. The mark is an apostrophe, unless the text holds an apostrophe and no double
quote; then it is a double quote and the apostrophes can stay as they are. -/

namespace ScriptLexer.Text

/-- The mark that quotes a text. -/
def quoteMark (text : Text) : Char :=
  if text.contains apostrophe && !text.contains doubleQuote then doubleQuote else apostrophe

/-- The lower-case hexadecimal digits of a number, filled up with zeros to a width. -/
def hexDigits (width code : Nat) : Text :=
  let digits := Nat.toDigits 16 code
  List.replicate (width - digits.length) '0' ++ digits

/-- A code point written out, in the shortest of the three widths that holds it. -/
def escapeCode (code : Nat) : Text :=
  if code < 0x100 then backslash :: 'x' :: hexDigits 2 code
  else if code < 0x10000 then backslash :: 'u' :: hexDigits 4 code
  else backslash :: 'U' :: hexDigits 8 code

/-- One character of a text that is quoted by `mark`. -/
def escapeChar (mark c : Char) : Text :=
  if c = mark ∨ c = backslash then [backslash, c]
  else if c = lineFeed then [backslash, 'n']
  else if c = carriageReturn then [backslash, 'r']
  else if c = '\t' then [backslash, 't']
  else if isPrintable c then [c]
  else escapeCode c.toNat

/-- The text between its quoting marks, with its characters escaped where needed. -/
def quoted (text : Text) : Text :=
  quoteMark text :: (text.flatMap (escapeChar (quoteMark text)) ++ [quoteMark text])

end ScriptLexer.Text
