import ScriptLexer.Text.CodeRange

set_option autoImplicit false

/-! # Blank characters

The white space of Unicode together with the four separators U+001C to U+001F. Blanks are
trimmed from a setting and from a line typed at the prompt before it is compared with the
command that leaves the loop. -/

namespace ScriptLexer.Text

/-- The ranges of the blank characters. -/
def blankRanges : List CodeRange := [
  ⟨0x0009, 0x000D⟩, ⟨0x001C, 0x0020⟩, ⟨0x0085, 0x0085⟩, ⟨0x00A0, 0x00A0⟩, ⟨0x1680, 0x1680⟩,
  ⟨0x2000, 0x200A⟩, ⟨0x2028, 0x2029⟩, ⟨0x202F, 0x202F⟩, ⟨0x205F, 0x205F⟩, ⟨0x3000, 0x3000⟩]

/-- The character is blank. -/
def isBlank (c : Char) : Bool := CodeRange.anyCovers blankRanges c

/-- The text without the blanks at its two ends. -/
def strip (text : Text) : Text := trim isBlank text

end ScriptLexer.Text
