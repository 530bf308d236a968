import ScriptLexer.Number.Layout
import ScriptLexer.Operator
import ScriptLexer.Position
import ScriptLexer.Text.Quoted

set_option autoImplicit false

/-! # Tokens

The five kinds of tokens, each with the payload it needs, the text by which a token is shown,
and tokens together with the positions they start at. -/

namespace ScriptLexer

/-- A token of the language. -/
inductive Token where
  /-- A run of letters, as it is spelled. -/
  | identifier (name : Text)
  /-- A number. -/
  | number (value : Number)
  /-- An operator. -/
  | operator (op : Operator)
  /-- A string literal with its escape sequences resolved, its delimiting quotes included. -/
  | string (value : Text)
  /-- The end of a row. -/
  | lineBreak
deriving DecidableEq, Repr

namespace Token

/-- The kind of a token. -/
def kindName : Token → Text
  | .identifier _ => "IDENTIFIER".toList
  | .number _ => "NUMBER".toList
  | .operator _ => "OPERATOR".toList
  | .string _ => "STRING".toList
  | .lineBreak => "LINE_BREAK".toList

/-- How the payload of a token is shown. -/
def payloadText? : Token → Option Text
  | .identifier name => some name.quoted
  | .number value => some value.text
  | .operator op => some op.name
  | .string value => some value.quoted
  | .lineBreak => none

/-- How a token is shown: its kind, and its payload if it has one. -/
def text (token : Token) : Text :=
  let payload :=
    match token.payloadText? with
    | some shown => ", ".toList ++ shown
    | none => []
  "Token(".toList ++ token.kindName ++ payload ++ [')']

/-- Equality of kind and payload, where the two zeros are one number. -/
def same : Token → Token → Bool
  | .number a, .number b => a.same b
  | a, b => a == b

end Token

/-- A token and the position that it starts at. -/
structure LocatedToken where
  /-- The token. -/
  token : Token
  /-- Where its lexeme starts. -/
  position : Position
deriving DecidableEq, Repr

namespace LocatedToken

/-- The line that shows a token: after its position and a tab if positions are asked for. -/
def line (located : LocatedToken) (positions : Bool) : Text :=
  if positions then located.position.text ++ '\t' :: located.token.text else located.token.text

/-- What stands on the line: the row, a colon, the column and a tab, if positions are asked for,
and the token. -/
theorem line_eq (located : LocatedToken) (positions : Bool) :
    located.line positions =
      if positions then
        Text.ofInt located.position.row ++ ':' ::
          (Text.ofInt located.position.col ++ '\t' :: located.token.text)
      else located.token.text := by
  rw [line, Position.text, List.append_assoc, List.cons_append]

end LocatedToken

end ScriptLexer
