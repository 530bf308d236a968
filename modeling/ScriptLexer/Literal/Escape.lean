import ScriptLexer.Text.Basic

set_option autoImplicit false

/-! # Escape sequences

In a string literal a backslash in front of a backslash or an apostrophe stands for that
character alone. In front of any other character, and at the end, it stands for itself. -/

namespace ScriptLexer.Literal

/-- The character is one that a backslash protects. -/
def isProtected (c : Char) : Bool := c == Text.backslash || c == Text.apostrophe

/-- The text with its escape sequences resolved. -/
def unescape : Text → Text
  | [] => []
  | '\\' :: c :: rest =>
    if isProtected c then c :: unescape rest else '\\' :: c :: unescape rest
  | c :: rest => c :: unescape rest

end ScriptLexer.Literal
