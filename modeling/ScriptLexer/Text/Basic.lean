set_option autoImplicit false

/-! # Texts

A text is a list of characters, each a Unicode code point. Every index, length and column of
this library counts the elements of such a list, so no encoding is involved until a file is
read. The file fixes the type, the characters that the notation of the language reserves, and
the decimal spelling of whole numbers. -/

namespace ScriptLexer

/-- A text: its characters in order. -/
abbrev Text : Type := List Char

namespace Text

/-- The mark that opens and closes a string literal. -/
abbrev apostrophe : Char := '\x27'

/-- The mark that quotes a text holding an apostrophe. -/
abbrev doubleQuote : Char := '\x22'

/-- The mark that opens an escape sequence. -/
abbrev backslash : Char := '\\'

/-- The character that ends a row. -/
abbrev lineFeed : Char := '\n'

/-- The character that may stand in front of a line feed and then belongs to the break. -/
abbrev carriageReturn : Char := '\r'

/-- The only character that is skipped between tokens. -/
abbrev space : Char := ' '

/-- The decimal digits of a natural number, without leading zeros. -/
def ofNat (n : Nat) : Text := Nat.toDigits 10 n

/-- The decimal digits of an integer, after a minus sign if it is negative. -/
def ofInt : Int → Text
  | .ofNat n => ofNat n
  | .negSucc n => '-' :: ofNat (n + 1)

/-- The text between two apostrophes. -/
def inApostrophes (text : Text) : Text := apostrophe :: (text ++ [apostrophe])

/-- The text without the longest run at its end whose characters all satisfy `drop`. -/
def trimEnd (drop : Char → Bool) (text : Text) : Text :=
  (text.reverse.dropWhile drop).reverse

/-- The text without the longest runs at both its ends whose characters all satisfy `drop`. -/
def trim (drop : Char → Bool) (text : Text) : Text :=
  trimEnd drop (text.dropWhile drop)

/-- The lines joined by line feeds, with none after the last. -/
def joinLines (lines : List Text) : Text := [lineFeed].intercalate lines

/-- Every line followed by a line feed. -/
def terminateLines (lines : List Text) : Text := lines.flatMap (· ++ [lineFeed])

end Text

end ScriptLexer
