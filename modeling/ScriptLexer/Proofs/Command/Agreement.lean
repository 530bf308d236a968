import Mathlib.Data.List.Basic
import ScriptLexer.Proofs.Command.Repl
import ScriptLexer.Proofs.Command.Tokenize
import ScriptLexer.Proofs.Rows
import ScriptLexer.Proofs.Shown

set_option autoImplicit false

/-! # The two commands agree

A program can be lexed as a file or typed line by line. If each of its rows is lexed without a
failure, both commands show the same tokens: the lines on the output of the one, those for line
breaks left out, are the lines on the output of the other, the prompts left out. With positions,
only the rows are different, since every row that is typed is the first one
(`TokenizeCall.run_agrees`). -/

namespace ScriptLexer

/-! ## Lines of a session -/

/-- The line shows a line break. -/
def Text.showsLineBreak (line : Text) : Bool := line.behindTab == "Token(LINE_BREAK)".toList

namespace Repl

/-- A line of a session without the prompts in front. -/
def withoutPrompts : Text → Text
  | '>' :: ' ' :: rest => withoutPrompts rest
  | line => line

/-- The lines that a session shows, without prompts and without the end of the line that a prompt
is left on. -/
def shownLines (output : Text) : List Text :=
  ((Text.lines output).map withoutPrompts).filter (· ≠ [])

theorem shownLines_prompt (output : Text) : shownLines (prompt ++ output) = shownLines output := by
  have hprompt : prompt ++ output = '>' :: ' ' :: output := rfl
  unfold shownLines
  rw [hprompt, Text.lines_cons (by decide) (by decide), Text.lines_cons (by decide) (by decide)]
  cases Text.lines output with
  | nil => rfl
  | cons line more => rfl

theorem withoutPrompts_cons {c : Char} (hc : c ≠ '>') (rest : Text) :
    withoutPrompts (c :: rest) = c :: rest := by
  rw [withoutPrompts]
  intro more hprompt
  exact absurd (List.cons.inj hprompt).1 hc

/-- The lines that show tokens are shown as they are. -/
theorem shownLines_tokens (tokens : List LocatedToken) (positions : Bool) (output : Text) :
    shownLines (Text.terminateLines (tokens.map (·.line positions)) ++ output) =
      tokens.map (·.line positions) ++ shownLines output := by
  induction tokens with
  | nil => rfl
  | cons located tokens ih =>
    obtain ⟨c, rest, hline, hc⟩ := located.exists_line_eq_cons positions
    have hlines : ∀ more, Text.lines (located.line positions ++ Text.lineFeed :: more) =
        located.line positions :: Text.lines more :=
      fun more => Text.lines_append (located.isLine_line positions) rfl
    have hshown : withoutPrompts (located.line positions) = located.line positions := by
      rw [hline, withoutPrompts_cons hc]
    have hne : located.line positions ≠ [] := by
      rw [hline]
      exact List.cons_ne_nil c rest
    calc shownLines (Text.terminateLines ((located :: tokens).map (·.line positions)) ++ output)
        = shownLines (located.line positions ++ Text.lineFeed ::
            (Text.terminateLines (tokens.map (·.line positions)) ++ output)) := by
          simp [Text.terminateLines]
      _ = located.line positions ::
            shownLines (Text.terminateLines (tokens.map (·.line positions)) ++ output) := by
          unfold shownLines
          rw [hlines, List.map_cons, hshown, List.filter_cons_of_pos (by simpa using hne)]
      _ = (located :: tokens).map (·.line positions) ++ shownLines output := by
          rw [ih, List.map_cons, List.cons_append]

/-- The output of lines that are lexed without a failure, if none of them asks to leave. -/
theorem output_of_ok {settings : Settings} {lines : List Text}
    (hstay : ∀ line ∈ lines, line.strip ≠ ":quit".toList)
    (hok : ∀ line ∈ lines, (settings.dialect.lex line).ok = true) :
    output settings lines = lines.flatMap (fun line => prompt ++
        Text.terminateLines ((settings.dialect.lex line).tokens.map (·.line settings.positions))) ++
      (prompt ++ [Text.lineFeed]) := by
  have hanswer : ∀ line ∈ lines, prompt ++ Text.terminateLines (answer settings line).output =
      prompt ++ Text.terminateLines
        ((settings.dialect.lex line).tokens.map (·.line settings.positions)) := by
    intro line hline
    have hnone : (settings.dialect.lex line).failure? = none :=
      Option.isNone_iff_eq_none.mp (hok line hline)
    unfold answer
    simp only [Dialect.tokenize, Lexing.result, hnone]
    rfl
  have houtput := output_append settings hstay []
  rw [List.append_nil] at houtput
  rw [houtput, List.flatMap_def, List.map_congr_left hanswer, ← List.flatMap_def]
  rfl

/-- What a session shows of lines with tokens. -/
theorem shownLines_session (rows : List Text) (tokens : Text → List LocatedToken)
    (positions : Bool) :
    shownLines (rows.flatMap (fun row =>
        prompt ++ Text.terminateLines ((tokens row).map (·.line positions))) ++
          (prompt ++ [Text.lineFeed])) =
      rows.flatMap fun row => (tokens row).map (·.line positions) := by
  induction rows with
  | nil => rfl
  | cons row rows ih =>
    rw [List.flatMap_cons, List.append_assoc, List.append_assoc, shownLines_prompt,
      shownLines_tokens, ih, List.flatMap_cons]

end Repl

/-! ## Lines of a file -/

namespace LocatedToken

theorem showsLineBreak_line (located : LocatedToken) (positions : Bool) :
    Text.showsLineBreak (located.line positions) = decide (located.token = .lineBreak) := by
  unfold Text.showsLineBreak
  rw [located.behindTab_line positions, Bool.eq_iff_iff, beq_iff_eq, decide_eq_true_iff]
  constructor
  · exact Token.eq_lineBreak_of_text
  · intro htoken
    rw [htoken]
    rfl

variable (tokens : List LocatedToken) (positions : Bool)

/-- The lines that show no line break are those of the other tokens. -/
theorem filter_lines :
    (tokens.map (·.line positions)).filter (!Text.showsLineBreak ·) =
      (tokens.filter (·.token ≠ .lineBreak)).map (·.line positions) := by
  rw [List.filter_map]
  congr 1
  refine List.filter_congr fun located _ => ?_
  show (!Text.showsLineBreak (located.line positions)) = _
  rw [located.showsLineBreak_line positions, decide_not]

theorem length_filter_lines :
    ((tokens.map (·.line positions)).filter Text.showsLineBreak).length =
      (tokens.map (·.token)).count .lineBreak := by
  rw [← List.countP_eq_length_filter, List.countP_map, List.count, List.countP_map]
  refine List.countP_congr fun located _ => ?_
  show Text.showsLineBreak (located.line positions) = true ↔ (located.token == .lineBreak) = true
  rw [located.showsLineBreak_line positions, decide_eq_true_iff, beq_iff_eq]

end LocatedToken

/-! ## The same program twice -/

namespace LocatedToken

/-- The line of a token in another row shows that row. -/
theorem line_inRow (located : LocatedToken) (row : Nat) (positions : Bool) :
    (located.inRow row).line positions =
      if positions then
        Text.ofNat row ++ ':' :: (Text.ofInt located.position.col ++ '\t' :: located.token.text)
      else located.token.text :=
  (located.inRow row).line_eq positions

/-- The line of a token of a row by itself shows the first row. -/
theorem line_of_row {located : LocatedToken} (hrow : located.position.row = 1)
    (positions : Bool) :
    located.line positions =
      if positions then
        '1' :: ':' :: (Text.ofInt located.position.col ++ '\t' :: located.token.text)
      else located.token.text := by
  rw [line_eq, hrow]
  rfl

end LocatedToken

/-- **The two commands agree on a program.** Let carriage returns stand in a text only in front of
line feeds, and let neither of the two be a letter of the dialect. If no row of the text asks to
leave, and each is lexed without a failure on its own, then so is the file that holds the text,
unless a byte order mark is taken off it. Line breaks aside, the lines of its output are those of
the tokens of the rows, and a session shows the same tokens in the same order. Where positions are
asked for, the file shows each token behind the number of its row and the column that it has in
the row alone, and a session shows it behind the first row and the same column. There are as many
line breaks as line feeds, and if no positions are asked for, the lines of both commands are the
same. -/
theorem TokenizeCall.run_agrees (file : TokenizeCall) (session : ReplCall) {dialect : Dialect}
    {fileEnvironment sessionEnvironment : Environment}
    (hfile : dialect.Chosen file.options fileEnvironment)
    (hsession : dialect.Chosen session.options sessionEnvironment)
    (hreturn : dialect.isLetter Text.carriageReturn = false)
    (hfeed : dialect.isLetter Text.lineFeed = false) {text : Text}
    (hmark : text.head? ≠ some '\uFEFF') (htext : text.ReturnsEndRows)
    (hstay : ∀ row ∈ Text.lines text, row.strip ≠ ":quit".toList)
    (hok : ∀ row ∈ Text.lines text, (dialect.lex row).ok = true)
    (input : Text) (entry entry' : Text → Entry)
    (hentry : entry file.file = .file (Utf8.encode text)) :
    let whole := file.run fileEnvironment input entry
    let rows := session.run sessionEnvironment text entry'
    whole.exitCode = 0 ∧ rows.exitCode = 0 ∧
      (Text.lines whole.output).filter (!Text.showsLineBreak ·) =
        ((Text.lines text).zipIdx 1).flatMap (fun row =>
          (dialect.lex row.1).tokens.map fun located =>
            if file.positions then
              Text.ofNat row.2 ++ ':' ::
                (Text.ofInt located.position.col ++ '\t' :: located.token.text)
            else located.token.text) ∧
      Repl.shownLines rows.output = (Text.lines text).flatMap (fun row =>
        (dialect.lex row).tokens.map fun located =>
          if session.positions then
            '1' :: ':' :: (Text.ofInt located.position.col ++ '\t' :: located.token.text)
          else located.token.text) ∧
      (∀ row ∈ Text.lines text, ∀ located ∈ (dialect.lex row).tokens,
        located.position.row = 1) ∧
      ((Text.lines whole.output).filter Text.showsLineBreak).length =
        text.count Text.lineFeed ∧
      (file.positions = false → session.positions = false →
        (Text.lines whole.output).filter (!Text.showsLineBreak ·) =
          Repl.shownLines rows.output) := by
  intro whole rows
  have hrows := (Text.rows_lines htext).isLine
  obtain ⟨hokText, htokens, hcount⟩ := Dialect.lex_rows hreturn hfeed htext hok
  have hfirst : ∀ row ∈ Text.lines text, ∀ located ∈ (dialect.lex row).tokens,
      located.position.row = 1 := fun row hrow located hlocated =>
    ((dialect.lex_row (hrows row hrow).lineFeed_not_mem).1 located hlocated).1
  -- the file shows all its tokens
  have hwhole : whole = _ := (file.run_eq hfile input hentry).trans
    (@Tokenize.run_of_ok ⟨dialect, file.verbose, file.positions⟩ _ _ _
      (Utf8.decodeFile_eq_ok (Utf8.withoutMark_encode hmark)) hokText)
  have hlines : Text.lines whole.output =
      (dialect.lex text).tokens.map (·.line file.positions) := by
    rw [hwhole]
    exact LocatedToken.lines_terminateLines _ _
  have hfilter : (Text.lines whole.output).filter (!Text.showsLineBreak ·) =
      ((Text.lines text).zipIdx 1).flatMap fun row =>
        (dialect.lex row.1).tokens.map fun located =>
          (located.inRow row.2).line file.positions := by
    rw [hlines, LocatedToken.filter_lines, htokens, List.map_flatMap]
    simp only [List.map_map]
    rfl
  have hshown : Repl.shownLines rows.output = (Text.lines text).flatMap fun row =>
      (dialect.lex row).tokens.map (·.line session.positions) := by
    let settings : Settings := ⟨dialect, session.verbose, session.positions⟩
    have houtput : rows.output = Repl.output settings _ :=
      congrArg Response.output (session.run_eq hsession text entry')
    rw [houtput, @Repl.output_of_ok settings _ hstay hok]
    exact Repl.shownLines_session _ (fun row => (dialect.lex row).tokens) _
  refine ⟨by rw [hwhole], ?_, ?_, ?_, hfirst, ?_, fun hwithout hwithout' => ?_⟩
  · exact congrArg Response.exitCode (session.run_eq hsession text entry')
  · simp only [hfilter, LocatedToken.line_inRow]
  · rw [hshown]
    exact List.flatMap_congr fun row hrow => List.map_congr_left fun located hlocated =>
      LocatedToken.line_of_row (hfirst row hrow located hlocated) session.positions
  · rw [hlines, LocatedToken.length_filter_lines, hcount]
  · -- without positions, the row of a token is not seen
    let shown (row : Text) : List Text := (dialect.lex row).tokens.map (·.line false)
    calc (Text.lines whole.output).filter (!Text.showsLineBreak ·)
        = ((Text.lines text).zipIdx 1).flatMap (fun row => shown row.1) := by
          rw [hfilter, hwithout]
          rfl
      _ = (Text.lines text).flatMap shown := by
          rw [← List.flatMap_map, List.zipIdx_map_fst]
      _ = Repl.shownLines rows.output := by
          rw [hshown, hwithout']

/-- A program of three rows, of which the first ends with a carriage return and a line feed, with
the positions of its tokens and without. -/
theorem TokenizeCall.run_agrees_three_rows :
    let text : Text := "x 'a'\r\n\ny += z".toList
    let whole (file : TokenizeCall) : Response :=
      file.run Environment.empty [] fun _ => .file (Utf8.encode text)
    let rows (session : ReplCall) : Response :=
      session.run Environment.empty text fun _ => .absent
    let plain := detailed "p.kum".toList rfl
    let placed := located "p.kum".toList rfl
    text.ReturnsEndRows ∧ (∀ row ∈ Text.lines text, row.strip ≠ ":quit".toList) ∧
      (∀ row ∈ Text.lines text, (Dialect.full.lex row).ok = true) ∧
      (Text.lines (whole placed).output).filter (!Text.showsLineBreak ·) =
        ["1:1\tToken(IDENTIFIER, 'x')".toList, "1:3\tToken(STRING, \"'a'\")".toList,
          "3:1\tToken(IDENTIFIER, 'y')".toList, "3:3\tToken(OPERATOR, ADD_ASSIGN)".toList,
          "3:6\tToken(IDENTIFIER, 'z')".toList] ∧
      Repl.shownLines (rows ReplCall.located).output =
        ["1:1\tToken(IDENTIFIER, 'x')".toList, "1:3\tToken(STRING, \"'a'\")".toList,
          "1:1\tToken(IDENTIFIER, 'y')".toList, "1:3\tToken(OPERATOR, ADD_ASSIGN)".toList,
          "1:6\tToken(IDENTIFIER, 'z')".toList] ∧
      ((Text.lines (whole placed).output).filter Text.showsLineBreak).length = 2 ∧
      (Text.lines (whole plain).output).filter (!Text.showsLineBreak ·) =
        ["Token(IDENTIFIER, 'x')".toList, "Token(STRING, \"'a'\")".toList,
          "Token(IDENTIFIER, 'y')".toList, "Token(OPERATOR, ADD_ASSIGN)".toList,
          "Token(IDENTIFIER, 'z')".toList] ∧
      (Text.lines (whole plain).output).filter (!Text.showsLineBreak ·) =
        Repl.shownLines (rows ReplCall.detailed).output := by
  intro text whole rows plain placed
  have htext : text.ReturnsEndRows := by decide
  have hstay : ∀ row ∈ Text.lines text, row.strip ≠ ":quit".toList := by decide +kernel
  have hok : ∀ row ∈ Text.lines text, (Dialect.full.lex row).ok = true := by decide +kernel
  have hagrees := fun (file : TokenizeCall) (session : ReplCall) hfile hsession =>
    @TokenizeCall.run_agrees file session Dialect.full Environment.empty Environment.empty
      (Dialect.Chosen.settings hfile rfl) (Dialect.Chosen.settings hsession rfl)
      (by decide +kernel) (by decide +kernel) text (by decide) htext hstay hok []
      (fun _ => .file (Utf8.encode text)) (fun _ => .absent) rfl
  obtain ⟨-, -, hplaced, hrows, -, hcount, -⟩ :=
    hagrees placed ReplCall.located (by decide) (by decide)
  obtain ⟨-, -, hplain, -, -, -, hsame⟩ :=
    hagrees plain ReplCall.detailed (by decide) (by decide)
  exact ⟨htext, hstay, hok, hplaced.trans (by decide +kernel), hrows.trans (by decide +kernel),
    hcount, hplain.trans (by decide +kernel), hsame (by decide) (by decide)⟩

end ScriptLexer
