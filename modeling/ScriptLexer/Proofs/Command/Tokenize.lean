import ScriptLexer.Command.Invocation
import ScriptLexer.Proofs.Command.Plan
import ScriptLexer.Proofs.Text.ControlSequence
import ScriptLexer.Proofs.Text.Printable
import ScriptLexer.Proofs.Text.Utf8

set_option autoImplicit false

/-! # The tokens of a file, or none

A call for the tokens of a file is written by the grammar of arguments (`TokenizeCall`), and the
program finds out what it asks for (`TokenizeCall.plan_eq`). What the call leaves behind is
decided by the bytes of the file alone: whether they are UTF-8, and whether their text is lexed
without a failure. The tokens are shown all together or not at all, and asking for details adds
to the error output only (`TokenizeCall.run_all_or_nothing`). -/

namespace ScriptLexer

/-! ## One file -/

namespace Tokenize

variable {settings : Settings} {file source : Text} {bytes : List UInt8}

/-- A text that is lexed without a failure is shown by its tokens. -/
theorem run_of_ok (hsource : Utf8.decodeFile bytes = .ok source)
    (hok : (settings.dialect.lex source).ok = true) :
    run settings file bytes =
      ⟨0, Text.terminateLines (settings.tokenLines (settings.dialect.lex source).tokens),
        Text.terminateLines (settings.notes [readNote source file, settings.dialectNote,
          Settings.countNote (settings.dialect.lex source).tokens])⟩ := by
  have hnone : (settings.dialect.lex source).failure? = none := Option.isNone_iff_eq_none.mp hok
  rw [run, hsource]
  simp only [Dialect.tokenize, Lexing.result, hnone]
  rfl

theorem run_of_failure (hsource : Utf8.decodeFile bytes = .ok source) {failure : Diagnostic}
    (hfailure : (settings.dialect.lex source).failure? = some failure) :
    run settings file bytes =
      failed settings [readNote source file, settings.dialectNote] (.lexing failure) := by
  rw [run, hsource]
  simp only [Dialect.tokenize, Lexing.result, hfailure]

/-- Bytes that are no text are refused. -/
theorem run_of_fault {fault : Utf8.Fault} (hfault : Utf8.decodeFile bytes = .error fault) :
    run settings file bytes = failed settings [] (.badValue fault.message) := by
  rw [run, hfault]

/-- One of these three is the case. -/
theorem outcomes (dialect : Dialect) (bytes : List UInt8) :
    (∃ fault, Utf8.decodeFile bytes = .error fault) ∨
      ∃ source, Utf8.decodeFile bytes = .ok source ∧
        ((dialect.lex source).ok = true ∨
          ∃ failure, (dialect.lex source).failure? = some failure) := by
  cases hsource : Utf8.decodeFile bytes with
  | error fault => exact Or.inl ⟨fault, rfl⟩
  | ok source =>
    refine Or.inr ⟨source, rfl, ?_⟩
    cases hfailure : (dialect.lex source).failure? with
    | none => exact Or.inl (Option.isNone_iff_eq_none.mpr hfailure)
    | some failure => exact Or.inr ⟨failure, rfl⟩

/-- The command has no internal errors. -/
theorem exitCode_run_le (settings : Settings) (file : Text) (bytes : List UInt8) :
    (run settings file bytes).exitCode ≤ 2 := by
  rcases outcomes settings.dialect bytes with
    ⟨fault, hfault⟩ | ⟨source, hsource, hok | ⟨failure, hfailure⟩⟩
  · rw [run_of_fault hfault]
    exact Nat.le_refl 2
  · rw [run_of_ok hsource hok]
    exact Nat.zero_le 2
  · rw [run_of_failure hsource hfailure]
    exact Nat.le_succ 1

/-- Asking for details changes neither the output nor the exit code. -/
theorem run_details (settings : Settings) (verbose : Bool) (file file' : Text)
    (bytes : List UInt8) :
    (run { settings with verbose := verbose } file' bytes).exitCode =
        (run settings file bytes).exitCode ∧
      (run { settings with verbose := verbose } file' bytes).output =
        (run settings file bytes).output := by
  rcases outcomes settings.dialect bytes with
    ⟨fault, hfault⟩ | ⟨source, hsource, hok | ⟨failure, hfailure⟩⟩
  · rw [run_of_fault hfault, run_of_fault hfault]
    exact ⟨rfl, rfl⟩
  · rw [run_of_ok hsource hok,
      @run_of_ok { settings with verbose := verbose } file' source bytes hsource hok]
    exact ⟨rfl, rfl⟩
  · rw [run_of_failure hsource hfailure,
      @run_of_failure { settings with verbose := verbose } file' source bytes hsource _ hfailure]
    exact ⟨rfl, rfl⟩

/-- The failure stands behind the notes. -/
theorem suffix_errors_failed (settings : Settings) (notes : List Text) (failure : Failure) :
    Text.terminateLines (failure.lines settings.verbose) <:+
      (failed settings notes failure).errors := by
  show _ <:+ Text.terminateLines (settings.notes notes ++ failure.lines settings.verbose)
  rw [Text.terminateLines, Text.terminateLines, List.flatMap_append]
  exact List.suffix_append _ _

end Tokenize

/-! ## Calls -/

/-- A call for the tokens of a file, as it is written. -/
structure TokenizeCall where
  /-- The words of the call. -/
  words : List Text
  /-- The options of the program, with their values. -/
  options : List (OptionName × Option Text)
  /-- The words behind the name of the command. -/
  commandWords : List Text
  /-- The options of the command. -/
  commandOptions : List (OptionName × Option Text)
  /-- The name of the file. -/
  file : Text
  /-- The command is called behind the options of the program. -/
  written : Arguments.Written Scope.program.options true words
    ⟨options, "tokenize".toList :: commandWords⟩
  /-- The file is the only operand of the command. -/
  commandWritten : Arguments.Written Scope.tokenize.options false commandWords
    ⟨commandOptions, [file]⟩
  /-- No option asks for anything else. -/
  noneEager : ∀ option ∈ options ++ commandOptions, option.1 ≠ .version ∧ option.1 ≠ .help

namespace TokenizeCall

/-- Details are asked for. -/
def verbose (call : TokenizeCall) : Bool := call.options.any (·.1 == .verbose)

/-- Positions are asked for. -/
def positions (call : TokenizeCall) : Bool := call.commandOptions.any (·.1 == .locations)

/-- What the call leaves behind. -/
def run (call : TokenizeCall) (environment : Environment) (input : Text) (entry : Text → Entry) :
    Response :=
  (⟨call.words, environment, input, entry⟩ : Invocation).run

end TokenizeCall

/-! ## What a call leaves behind -/

namespace TokenizeCall

variable {environment : Environment} {dialect : Dialect}

/-- The program finds out what the call asks for. -/
theorem plan_eq (call : TokenizeCall) (hdialect : dialect.Chosen call.options environment)
    (input : Text) {entry : Text → Entry} (hfile : (entry call.file).kind = .file) :
    (⟨call.words, environment, input, entry⟩ : Invocation).plan =
      .ok (.tokenize ⟨dialect, call.verbose, call.positions⟩ call.file) := by
  have hprogram := fun option hoption =>
    call.noneEager option (List.mem_append_left call.commandOptions hoption)
  have hcommand := fun option hoption =>
    call.noneEager option (List.mem_append_right call.options hoption)
  rw [Invocation.plan, Plan.ofCall_command rfl call.written hprogram hdialect, if_neg (by decide)]
  exact Plan.ofTokenize_eq_ok call.commandWritten hcommand hfile dialect _

theorem run_eq (call : TokenizeCall) (hdialect : dialect.Chosen call.options environment)
    (input : Text) {entry : Text → Entry} {bytes : List UInt8}
    (hfile : entry call.file = .file bytes) :
    call.run environment input entry =
      Tokenize.run ⟨dialect, call.verbose, call.positions⟩ call.file bytes := by
  rw [run, Invocation.run, call.plan_eq hdialect input (by rw [hfile]; rfl)]
  show Tokenize.run _ call.file (entry call.file).content = _
  rw [hfile]
  rfl

/-- **A file is shown by all its tokens or by none.** A call names a dialect or takes the one of
the settings, and it names a file. If the bytes of the file, without a byte order mark in front,
are the encoding of a text that is lexed without a failure, the exit code is 0 and the output has
one line for each token; the row of the token, a colon, its column and a tab stand in front of it if
positions are asked for. If lexing fails, the output is empty, the exit code is 1, and the failure
stands at the end of the error output, where the row that is shown with it has no control
sequences. If the bytes encode no text, the output is empty and the exit code is 2, except that
the beginning of a mark is read as an empty text. The exit code is never 3, and another call for
the same file in the same dialect, with positions or without as the first, leaves the same output
and exit code, whether details are asked for or not. -/
theorem run_all_or_nothing (call : TokenizeCall)
    (hdialect : dialect.Chosen call.options environment) (input : Text) {entry : Text → Entry}
    {bytes : List UInt8} (hfile : entry call.file = .file bytes) :
    (∀ text, Utf8.withoutMark bytes = Utf8.encode text ∨
          Utf8.IsTruncatedMark bytes ∧ text = [] →
        ((dialect.lex text).ok = true →
          (call.run environment input entry).exitCode = 0 ∧
          (call.run environment input entry).output =
            Text.terminateLines ((dialect.lex text).tokens.map fun located =>
              if call.positions then
                Text.ofInt located.position.row ++ ':' ::
                  (Text.ofInt located.position.col ++ '\t' :: located.token.text)
              else located.token.text) ∧
          ∀ located ∈ (dialect.lex text).tokens,
            Text.lineFeed ∉ located.line call.positions) ∧
        ∀ failure, (dialect.lex text).failure? = some failure →
          (call.run environment input entry).exitCode = 1 ∧
          (call.run environment input entry).output = [] ∧
          Text.terminateLines [failure.plain.shown call.verbose] <:+
            (call.run environment input entry).errors) ∧
    ((∀ text, Utf8.withoutMark bytes ≠ Utf8.encode text) → ¬Utf8.IsTruncatedMark bytes →
      (call.run environment input entry).exitCode = 2 ∧
      (call.run environment input entry).output = []) ∧
    (call.run environment input entry).exitCode ≠ 3 ∧
    ∀ other : TokenizeCall, dialect.Chosen other.options environment → other.file = call.file →
      other.positions = call.positions →
      (other.run environment input entry).exitCode = (call.run environment input entry).exitCode ∧
      (other.run environment input entry).output = (call.run environment input entry).output := by
  let settings : Settings := ⟨dialect, call.verbose, call.positions⟩
  rw [call.run_eq hdialect input hfile]
  refine ⟨fun text htext => ?_, fun hbytes htruncated => ?_, ?_, ?_⟩
  · have hsource : Utf8.decodeFile bytes = .ok text := by
      rcases htext with htext | ⟨htruncated, rfl⟩
      · exact Utf8.decodeFile_eq_ok htext
      · exact Utf8.decodeFile_of_isTruncatedMark htruncated
    refine ⟨fun hok => ?_, fun failure hfailure => ?_⟩
    · rw [@Tokenize.run_of_ok settings _ _ _ hsource hok]
      refine ⟨rfl, ?_, fun located _ => located.lineFeed_not_mem_line _⟩
      exact congrArg Text.terminateLines
        (List.map_congr_left fun located _ => located.line_eq call.positions)
    · -- the whole message loses its control sequences, and that leaves the plain diagnostic
      have hplain := Diagnostic.plain_shown (Dialect.isPlain_of_lex hfailure) call.verbose
      rw [@Tokenize.run_of_failure settings _ _ _ hsource _ hfailure, ← hplain]
      exact ⟨rfl, rfl, Tokenize.suffix_errors_failed settings _ (.lexing failure)⟩
  · obtain ⟨fault, hfault⟩ := Utf8.exists_decodeFile_eq_error hbytes htruncated
    rw [Tokenize.run_of_fault hfault]
    exact ⟨rfl, rfl⟩
  · exact Nat.ne_of_lt (Nat.lt_succ_of_le (Tokenize.exitCode_run_le settings call.file bytes))
  · intro other hother hsame hpositions
    rw [other.run_eq hother input (by rw [hsame, hfile]), hpositions]
    exact Tokenize.run_details settings other.verbose call.file other.file bytes

/-- The call for the tokens of a file and for details, in the dialect of the settings. -/
def detailed (file : Text) (hfile : Arguments.looksLikeOption file = false) : TokenizeCall where
  words := ["-v".toList, "tokenize".toList, file]
  options := [(.verbose, none)]
  commandWords := [file]
  commandOptions := []
  file := file
  written := by
    have hknown : ∀ name ∈ [OptionName.verbose], name ∈ Scope.program.options := by decide
    have hcommand := @Arguments.Written.command Scope.program.options true "tokenize".toList
      [file] rfl rfl
    exact @Arguments.Written.letters _ _ [.verbose] ['v'] _ _ (by simp) hknown rfl hcommand
  commandWritten := Arguments.Written.operand rfl hfile Arguments.Written.nothing
  noneEager := by decide

/-- The call for the tokens of a file and their positions, in the dialect of the settings. -/
def located (file : Text) (hfile : Arguments.looksLikeOption file = false) : TokenizeCall where
  words := ["tokenize".toList, "--locations".toList, file]
  options := []
  commandWords := ["--locations".toList, file]
  commandOptions := [(.locations, none)]
  file := file
  written := Arguments.Written.command _ rfl rfl
  commandWritten := by
    have hfiles : Arguments.Written Scope.tokenize.options false [file] ⟨[], [file]⟩ :=
      Arguments.Written.operand rfl hfile Arguments.Written.nothing
    exact @Arguments.Written.flag _ _ .locations _ _ (by decide) rfl hfiles
  noneEager := Plan.locations_not_eager

/-- A file with a byte order mark, in a dialect without operators, that fails in its second row. In
the dialect with operators all its tokens are shown, with their positions where these are asked
for. -/
theorem run_all_or_nothing_reduced :
    let call := detailed "p.kum".toList rfl
    let placed := located "p.kum".toList rfl
    let environment : Environment := ⟨some "reduced".toList, none, none⟩
    let entry : Text → Entry :=
      fun _ => .file (Utf8.byteOrderMark ++ Utf8.encode "я\r\n  +".toList)
    Dialect.reduced.Chosen call.options environment ∧
      (call.run environment [] entry).exitCode = 1 ∧
      (call.run environment [] entry).output = [] ∧
      Text.terminateLines
          [(⟨.unknownSymbol ['+'], ⟨2, 3⟩, some "  +".toList⟩ : Diagnostic).report] <:+
        (call.run environment [] entry).errors ∧
      Dialect.full.Chosen placed.options Environment.empty ∧
      (placed.run Environment.empty [] entry).exitCode = 0 ∧
      (placed.run Environment.empty [] entry).output =
        ("1:1\tToken(IDENTIFIER, 'я')\n1:2\tToken(LINE_BREAK)\n" ++
          "2:3\tToken(OPERATOR, ADD)\n").toList := by
  intro call placed environment entry
  have hdialect : Dialect.reduced.Chosen call.options environment := by
    have hlookup : Dialect.names.lookup (Text.lowercase "reduced".toList) =
        some Dialect.reduced := by decide +kernel
    have hname : Dialect.named "reduced".toList = .ok Dialect.reduced := by
      rw [Dialect.named, hlookup]
    refine Dialect.Chosen.settings (by decide) ?_
    show (Dialect.named "reduced".toList >>= _) = _
    rw [hname]
    rfl
  have hfailure : (Dialect.reduced.lex "я\r\n  +".toList).failure? =
      some ⟨.unknownSymbol ['+'], ⟨2, 3⟩, some "  +".toList⟩ := by decide +kernel
  have hrow : Text.plain "  +".toList = "  +".toList := Text.plain_eq_self (by decide)
  obtain ⟨htext, -⟩ := @run_all_or_nothing environment _ call hdialect [] entry _ rfl
  obtain ⟨hcode, houtput, herrors⟩ := (htext "я\r\n  +".toList (Or.inl rfl)).2 _ hfailure
  rw [Diagnostic.plain, Option.map_some, hrow] at herrors
  have hfull : Dialect.full.Chosen placed.options Environment.empty :=
    Dialect.Chosen.settings (by decide) rfl
  obtain ⟨hshown, -⟩ := @run_all_or_nothing Environment.empty _ placed hfull [] entry _ rfl
  obtain ⟨hsuccess, hlines, -⟩ := (hshown "я\r\n  +".toList (Or.inl rfl)).1 (by decide +kernel)
  exact ⟨hdialect, hcode, houtput, herrors, hfull, hsuccess, hlines.trans (by decide +kernel)⟩

/-- In the row that is shown with a failure, a control sequence is left out. -/
theorem run_row_with_sequence :
    let call := detailed "p.kum".toList rfl
    let entry : Text → Entry := fun _ => .file (Utf8.encode "\x1b[m".toList)
    let failure : Diagnostic := ⟨.unknownSymbol ['\x1b'], ⟨1, 1⟩, some "\x1b[m".toList⟩
    Dialect.full.Chosen call.options Environment.empty ∧
      (Dialect.full.lex "\x1b[m".toList).failure? = some failure ∧
      ¬Text.terminateLines [failure.shown call.verbose] <:+
        (call.run Environment.empty [] entry).errors := by
  intro call entry failure
  refine ⟨Dialect.Chosen.settings (by decide) rfl, by decide +kernel, by decide +kernel⟩

end TokenizeCall

end ScriptLexer
