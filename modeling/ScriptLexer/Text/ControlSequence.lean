import ScriptLexer.Text.Basic

set_option autoImplicit false

/-! # Control sequences

A terminal takes an escape character, a bracket, parameters and a letter for a command, such as
a change of colour. A message may hold such a sequence because a program text or an argument
does; it is left out when the message is printed. A sequence that is not complete stays. -/

namespace ScriptLexer.Text

/-- The character that opens a control sequence. -/
abbrev escape : Char := '\x1b'

/-- The character belongs to the parameters of a control sequence. -/
def isParameter (c : Char) : Bool := c.isDigit || c == ';' || c == '?'

/-- What follows a control sequence, given what follows its bracket, if that completes it. -/
def afterSequence? (text : Text) : Option Text :=
  match text.dropWhile isParameter with
  | [] => none
  | c :: rest => if c.isAlpha then some rest else none

/-- What follows a control sequence is shorter than what follows its bracket. -/
theorem length_lt_of_afterSequence? {text rest : Text} (h : afterSequence? text = some rest) :
    rest.length < text.length := by
  have hlen := (List.dropWhile_sublist isParameter (l := text)).length_le
  simp only [afterSequence?] at h
  split at h
  · simp at h
  next c more hdrop =>
    rw [hdrop, List.length_cons] at hlen
    split at h
    · obtain rfl := Option.some.inj h
      omega
    · simp at h

/-- The text without its control sequences. -/
def plain (text : Text) : Text :=
  match text with
  | [] => []
  | '\x1b' :: '[' :: rest =>
    match _h : afterSequence? rest with
    | some after => plain after
    | none => escape :: plain ('[' :: rest)
  | c :: rest => c :: plain rest
termination_by text.length
decreasing_by
  · have := length_lt_of_afterSequence? _h
    simp only [List.length_cons]
    omega
  · simp only [List.length_cons]
    omega
  · simp only [List.length_cons]
    omega

end ScriptLexer.Text
