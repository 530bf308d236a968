import ScriptLexer.Command.Invocation
import ScriptLexer.Proofs.Command.Plan
import ScriptLexer.Proofs.SingleRow
import ScriptLexer.Proofs.Text.ControlSequence
import ScriptLexer.Proofs.Text.Printable

set_option autoImplicit false

/-! # Lines one by one

A call for the command that reads lines is written by the grammar of arguments (`ReplCall`). What
it leaves on the output is put together from the answers to the single lines, each of them behind a
prompt, up to the first line that asks to leave (`Repl.output_append`). An answer depends on its
line alone, and no line ends the command early: neither a failure nor the way in which the lines
are ended (`ReplCall.run_line_by_line`). -/

namespace ScriptLexer

/-! ## The output of the lines -/

namespace Repl

theorem asksToLeave_iff {line : Text} :
    asksToLeave line = true ↔ line.strip = ":quit".toList := by
  unfold asksToLeave
  exact beq_iff_eq

/-- The lines in front of the others are answered one after the other, if none of them asks to
leave. -/
theorem output_append (settings : Settings) {before : List Text}
    (hbefore : ∀ line ∈ before, line.strip ≠ ":quit".toList) (lines : List Text) :
    output settings (before ++ lines) =
      before.flatMap (fun line => prompt ++ Text.terminateLines (answer settings line).output) ++
        output settings lines := by
  induction before with
  | nil => rfl
  | cons line before ih =>
    have hstay : ¬asksToLeave line = true :=
      fun h => hbefore line List.mem_cons_self (asksToLeave_iff.mp h)
    have hmore := ih fun other hother => hbefore other (List.mem_cons_of_mem line hother)
    rw [List.cons_append, output, if_neg hstay, hmore, List.flatMap_cons, List.append_assoc,
      List.append_assoc, List.append_assoc]

end Repl

/-! ## Calls -/

/-- A call for the command that reads lines, as it is written. -/
structure ReplCall where
  /-- The words of the call. -/
  words : List Text
  /-- The options of the program, with their values. -/
  options : List (OptionName × Option Text)
  /-- The words behind the name of the command. -/
  commandWords : List Text
  /-- The options of the command. -/
  commandOptions : List (OptionName × Option Text)
  /-- The command is called behind the options of the program. -/
  written : Arguments.Written Scope.program.options true words
    ⟨options, "repl".toList :: commandWords⟩
  /-- The command has no operands. -/
  commandWritten : Arguments.Written Scope.repl.options false commandWords ⟨commandOptions, []⟩
  /-- No option asks for anything else. -/
  noneEager : ∀ option ∈ options ++ commandOptions, option.1 ≠ .version ∧ option.1 ≠ .help

namespace ReplCall

/-- Details are asked for. -/
def verbose (call : ReplCall) : Bool := call.options.any (·.1 == .verbose)

/-- Positions are asked for. -/
def positions (call : ReplCall) : Bool := call.commandOptions.any (·.1 == .locations)

/-- What the call leaves behind. -/
def run (call : ReplCall) (environment : Environment) (input : Text) (entry : Text → Entry) :
    Response :=
  (⟨call.words, environment, input, entry⟩ : Invocation).run

/-- What the call answers a line in a dialect: one line for each token, behind its row, a colon, its
column and a tab if positions are asked for; or, if there are no tokens because lexing fails, the
failure, whose row is shown without control sequences. -/
def answer (call : ReplCall) (dialect : Dialect) (line : Text) : Text :=
  match dialect.tokenize line with
  | .ok tokens =>
    Text.terminateLines (tokens.map fun located =>
      if call.positions then
        Text.ofInt located.position.row ++ ':' ::
          (Text.ofInt located.position.col ++ '\t' :: located.token.text)
      else located.token.text)
  | .error failure => Text.terminateLines [failure.plain.shown call.verbose]

variable {environment : Environment} {dialect : Dialect}

/-- The program finds out what the call asks for. -/
theorem run_eq (call : ReplCall) (hdialect : dialect.Chosen call.options environment)
    (input : Text) (entry : Text → Entry) :
    call.run environment input entry =
      Repl.run ⟨dialect, call.verbose, call.positions⟩ input := by
  have hprogram := fun option hoption =>
    call.noneEager option (List.mem_append_left call.commandOptions hoption)
  have hcommand := fun option hoption =>
    call.noneEager option (List.mem_append_right call.options hoption)
  have hplan : (⟨call.words, environment, input, entry⟩ : Invocation).plan =
      .ok (.repl ⟨dialect, call.verbose, call.positions⟩) := by
    rw [Invocation.plan, Plan.ofCall_command rfl call.written hprogram hdialect, if_pos (by decide)]
    exact Plan.ofRepl_eq_ok call.commandWritten hcommand dialect _
  rw [run, Invocation.run, hplan]

theorem answer_eq (call : ReplCall) (dialect : Dialect) (line : Text) :
    Text.terminateLines
        (Repl.answer ⟨dialect, call.verbose, call.positions⟩ line).output =
      call.answer dialect line := by
  unfold Repl.answer answer
  cases htokens : dialect.tokenize line with
  | ok tokens =>
    exact congrArg Text.terminateLines
      (List.map_congr_left fun located _ => located.line_eq call.positions)
  | error failure =>
    have hfailure : (dialect.lex line).failure? = some failure := by
      unfold Dialect.tokenize Lexing.result at htokens
      split at htokens
      next heq => rw [heq, Except.error.inj htokens]
      · simp at htokens
    -- the whole message loses its control sequences, and that leaves the plain diagnostic
    show Text.terminateLines [(failure.shown call.verbose).plain] = _
    rw [Diagnostic.plain_shown (Dialect.isPlain_of_lex hfailure)]

/-- **Lines are answered one by one, and no line can break that.** For lines without line breaks,
ended in any of the three ways, the last of them perhaps not, the exit code is 0 and the output has
a prompt and the answer for each line in front of the first one that asks to leave, and behind them
a prompt, followed by the end of its line if no line asks to leave. Whatever ends the lines, the
call leaves the same behind. What is found in a line lies in the first row, each token is shown on
one line, no token is a line break and no literal is broken by one. The row that is shown with a
failure is the line itself, and the failure is shown word for word unless details are asked for and
the line holds a control sequence. -/
theorem run_line_by_line (call : ReplCall) (hdialect : dialect.Chosen call.options environment)
    (entry : Text → Entry) {lines : List Text} (hlines : ∀ line ∈ lines, line.IsLine)
    (lineEnd : LineEnd) {ended : Bool} (hlast : ended = false → lines.getLast? ≠ some []) :
    (call.run environment (lineEnd.typed ended lines) entry).exitCode = 0 ∧
    ((∀ line ∈ lines, line.strip ≠ ":quit".toList) →
      (call.run environment (lineEnd.typed ended lines) entry).output =
        lines.flatMap (fun line => "> ".toList ++ call.answer dialect line) ++
          ("> ".toList ++ [Text.lineFeed])) ∧
    (∀ before leave after, lines = before ++ leave :: after →
      (∀ line ∈ before, line.strip ≠ ":quit".toList) → leave.strip = ":quit".toList →
        (call.run environment (lineEnd.typed ended lines) entry).output =
          before.flatMap (fun line => "> ".toList ++ call.answer dialect line) ++
            "> ".toList) ∧
    (∀ (lineEnd' : LineEnd) (ended' : Bool), (ended' = false → lines.getLast? ≠ some []) →
      call.run environment (lineEnd'.typed ended' lines) entry =
        call.run environment (lineEnd.typed ended lines) entry) ∧
    ∀ line ∈ lines,
      (∀ located ∈ (dialect.lex line).tokens, located.position.row = 1 ∧
        located.token ≠ .lineBreak ∧ Text.lineFeed ∉ located.line call.positions) ∧
      ∀ failure, (dialect.lex line).failure? = some failure →
        failure.position.row = 1 ∧ failure.fault ≠ .literal .broken ∧
          failure.sourceLine? = some line ∧
          (call.verbose = false ∨ line.plain = line →
            failure.plain.shown call.verbose = failure.shown call.verbose) := by
  let settings : Settings := ⟨dialect, call.verbose, call.positions⟩
  have hread := lineEnd.lines_typed hlines hlast
  have hprompt : (fun line => Repl.prompt ++
        Text.terminateLines (Repl.answer settings line).output) =
      fun line => "> ".toList ++ call.answer dialect line := by
    funext line
    rw [call.answer_eq dialect line]
    rfl
  rw [call.run_eq hdialect]
  refine ⟨rfl, fun hstay => ?_, fun before leave after hsplit hstay hleave => ?_,
    fun lineEnd' ended' hlast' => ?_, fun line hline => ?_⟩
  · show Repl.output settings (Text.lines _) = _
    have houtput := Repl.output_append settings hstay []
    rw [List.append_nil, hprompt] at houtput
    rw [hread, houtput]
    rfl
  · show Repl.output settings (Text.lines _) = _
    have hlast : Repl.output settings (leave :: after) = "> ".toList := by
      rw [Repl.output, if_pos (Repl.asksToLeave_iff.mpr hleave)]
      rfl
    rw [hread, hsplit, Repl.output_append settings hstay, hprompt, hlast]
  · rw [call.run_eq hdialect]
    unfold Repl.run
    rw [hread, lineEnd'.lines_typed hlines hlast']
  · obtain ⟨htokens, hfailures⟩ := dialect.lex_row (hlines line hline).lineFeed_not_mem
    refine ⟨fun located hlocated => ?_, fun failure hfailure => ?_⟩
    · obtain ⟨hrow, hbreak⟩ := htokens located hlocated
      exact ⟨hrow, hbreak, located.lineFeed_not_mem_line _⟩
    · obtain ⟨hrow, hbroken, hsource⟩ := hfailures failure hfailure
      have hsource := hsource (hlines line hline)
      refine ⟨hrow, hbroken, hsource, ?_⟩
      rintro (hshort | hplain)
      · rw [hshort]
        rfl
      · rw [Diagnostic.plain, hsource, Option.map_some, hplain, ← hsource]

/-- The call that reads lines and asks for details, in the dialect of the settings. -/
def detailed : ReplCall where
  words := ["-v".toList, "repl".toList]
  options := [(.verbose, none)]
  commandWords := []
  commandOptions := []
  written := Plan.written_verbose rfl
  commandWritten := Arguments.Written.nothing
  noneEager := Plan.single_not_eager rfl

/-- The call that reads lines and asks for positions, in the dialect of the settings. -/
def located : ReplCall where
  words := ["repl".toList, "--locations".toList]
  options := []
  commandWords := ["--locations".toList]
  commandOptions := [(.locations, none)]
  written := Arguments.Written.command _ rfl rfl
  commandWritten :=
    @Arguments.Written.flag _ _ .locations _ _ (by decide) rfl Arguments.Written.nothing
  noneEager := Plan.locations_not_eager

/-- A session in which a line is lexed, one fails and one asks to leave, ended by carriage
returns, with details and with positions. -/
theorem run_line_by_line_leaving :
    let lines : List Text := ["x 'a'".toList, "#".toList, " :quit\t".toList, "y".toList]
    Dialect.full.Chosen detailed.options Environment.empty ∧ (∀ line ∈ lines, line.IsLine) ∧
      lines.getLast? ≠ some [] ∧
      (detailed.run Environment.empty (LineEnd.carriageReturn.typed false lines)
          fun _ => .absent).output =
        ("> Token(IDENTIFIER, 'x')\nToken(STRING, \"'a'\")\n" ++
          "> Lexer failed at 1:1\nUnknown symbol '#'\n    #\n    ^\n" ++
          "hint: remove the character or quote it in a string literal\n> ").toList ∧
      Dialect.full.Chosen located.options Environment.empty ∧
      (located.run Environment.empty (LineEnd.carriageReturn.typed false lines)
          fun _ => .absent).output =
        ("> 1:1\tToken(IDENTIFIER, 'x')\n1:3\tToken(STRING, \"'a'\")\n" ++
          "> Lexer failed at 1:1\nUnknown symbol '#'\n> ").toList := by
  intro lines
  have hdialect : Dialect.full.Chosen detailed.options Environment.empty :=
    Dialect.Chosen.settings (by decide) rfl
  have hlines : ∀ line ∈ lines, line.IsLine := by decide
  have hlast : lines.getLast? ≠ some [] := by decide
  obtain ⟨-, -, hleave, -⟩ := @run_line_by_line _ _ detailed hdialect (fun _ => .absent) _ hlines
    .carriageReturn false fun _ => hlast
  have houtput := hleave ["x 'a'".toList, "#".toList] " :quit\t".toList ["y".toList] rfl
    (by decide +kernel) (by decide +kernel)
  have hplaced : Dialect.full.Chosen located.options Environment.empty :=
    Dialect.Chosen.settings (by decide) rfl
  obtain ⟨-, -, hleave', -⟩ := @run_line_by_line _ _ located hplaced (fun _ => .absent) _ hlines
    .carriageReturn false fun _ => hlast
  have houtput' := hleave' ["x 'a'".toList, "#".toList] " :quit\t".toList ["y".toList] rfl
    (by decide +kernel) (by decide +kernel)
  exact ⟨hdialect, hlines, hlast, houtput.trans (by decide +kernel), hplaced,
    houtput'.trans (by decide +kernel)⟩

/-- In the row that is shown with a failure, a control sequence is left out, so the output is not
made of prompts and failures word for word. -/
theorem run_line_with_sequence :
    let failure : Diagnostic := ⟨.unknownSymbol ['\x1b'], ⟨1, 1⟩, some "\x1b[m".toList⟩
    Dialect.full.Chosen detailed.options Environment.empty ∧ Text.IsLine "\x1b[m".toList ∧
      (Dialect.full.lex "\x1b[m".toList).failure? = some failure ∧
      (detailed.run Environment.empty (LineEnd.lineFeed.typed true ["\x1b[m".toList])
          fun _ => .absent).output ≠
        "> ".toList ++ Text.terminateLines [failure.shown detailed.verbose] ++
          ("> ".toList ++ [Text.lineFeed]) := by
  intro failure
  exact ⟨Dialect.Chosen.settings (by decide) rfl, by decide, by decide +kernel,
    by decide +kernel⟩

end ReplCall

end ScriptLexer
