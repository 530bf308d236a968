import ScriptLexer.Literal.Reading
import ScriptLexer.Position

set_option autoImplicit false

/-! # Diagnostics

A diagnostic says what stops the lexing of a text and where. It is shown either by its headline
alone, two lines with the position and the message, or by a report, which adds the row with a
caret below the column and a hint on what to do. -/

namespace ScriptLexer

/-- What stops the lexing of a text. -/
inductive Fault where
  /-- No rule applies to this symbol. -/
  | unknownSymbol (symbol : Text)
  /-- A string literal is not closed. -/
  | literal (fault : Literal.Fault)
  /-- Something else, in words, and perhaps what to do about it. -/
  | other (message : Text) (hint? : Option Text)
deriving DecidableEq, Repr

namespace Fault

/-- How a fault is put into words. -/
def message : Fault → Text
  | .unknownSymbol symbol => "Unknown symbol ".toList ++ symbol.inApostrophes
  | .literal .unterminated => "Quote or line-break not found".toList
  | .literal .broken => "String is terminated by line-break instead of closing quote".toList
  | .other message _ => message

/-- What to do about a fault. -/
def hint? : Fault → Option Text
  | .unknownSymbol _ => some "remove the character or quote it in a string literal".toList
  | .literal .unterminated => some "add a closing \"'\" to complete the string".toList
  | .literal .broken => some "close the string before the end of the line".toList
  | .other _ hint? => hint?

end Fault

/-- A fault with the place it is pointed out at. -/
structure Diagnostic where
  /-- What is wrong. -/
  fault : Fault
  /-- Where it is pointed out. -/
  position : Position
  /-- The row that is shown with it. -/
  sourceLine? : Option Text
deriving DecidableEq, Repr

namespace Diagnostic

/-- The two lines that tell where lexing failed and why. -/
def headline (diagnostic : Diagnostic) : List Text :=
  ["Lexer failed at ".toList ++ diagnostic.position.text, diagnostic.fault.message]

/-- The row, indented by four, and a caret below the column of the diagnostic. -/
def pointer (diagnostic : Diagnostic) (row : Text) : List Text :=
  ["    ".toList ++ row,
    List.replicate (diagnostic.position.col + 3).toNat Text.space ++ ['^']]

/-- The line that says what to do, if there is something to say. -/
def advice (hint? : Option Text) : List Text :=
  match hint? with
  | some (c :: hint) => ["hint: ".toList ++ c :: hint]
  | _ => []

/-- The diagnostic in short. -/
def summary (diagnostic : Diagnostic) : Text := Text.joinLines diagnostic.headline

/-- The diagnostic with the row it points into and a hint. -/
def report (diagnostic : Diagnostic) : Text :=
  let pointer :=
    match diagnostic.sourceLine? with
    | some row => diagnostic.pointer row
    | none => []
  Text.joinLines (diagnostic.headline ++ pointer ++ advice diagnostic.fault.hint?)

/-- The diagnostic as it is shown, at length or in short. -/
def shown (diagnostic : Diagnostic) (verbose : Bool) : Text :=
  if verbose then diagnostic.report else diagnostic.summary

end Diagnostic

end ScriptLexer
