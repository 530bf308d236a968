import ScriptLexer.Proofs.Command.Tokenize
import ScriptLexer.Proofs.Faithful

set_option autoImplicit false

/-! # What the output tells

A call that asks for the tokens of a file and succeeds (`TokenizeRun`) shows each of its tokens on
a line (`TokenizeRun.output_eq`). The lines can be told apart, and so can the tokens: two outputs are
equal exactly if their tokens are, together with their positions if those are asked for
(`TokenizeRun.output_faithful`). -/

namespace ScriptLexer

/-- A call that asks for the tokens of a file, and succeeds. -/
structure TokenizeRun where
  /-- The call and the world it is made in. -/
  invocation : Invocation
  /-- How the file is lexed and what is shown. -/
  settings : Settings
  /-- The name of the file. -/
  file : Text
  /-- The call asks for the tokens of the file. -/
  plan_eq : invocation.plan = .ok (.tokenize settings file)
  /-- The call succeeds. -/
  succeeds : invocation.run.exitCode = 0

namespace TokenizeRun

/-- The text of the file. -/
def source (run : TokenizeRun) : Text :=
  match Utf8.decodeFile (run.invocation.entry run.file).content with
  | .ok source => source
  | .error _ => []

/-- The tokens of the file. -/
def tokens (run : TokenizeRun) : List LocatedToken :=
  (run.settings.dialect.lex run.source).tokens

/-- Positions are asked for. -/
def positions (run : TokenizeRun) : Bool := run.settings.positions

/-- The text on the output. -/
def output (run : TokenizeRun) : Text := run.invocation.run.output

theorem run_eq (run : TokenizeRun) :
    run.invocation.run =
      Tokenize.run run.settings run.file (run.invocation.entry run.file).content := by
  rw [Invocation.run, run.plan_eq]

/-- A call that succeeds has found a text in the file, and has lexed it without a failure. -/
theorem source_spec (run : TokenizeRun) :
    Utf8.decodeFile (run.invocation.entry run.file).content = .ok run.source ∧
      (run.settings.dialect.lex run.source).ok = true := by
  have hsucceeds := run.succeeds
  rw [run.run_eq] at hsucceeds
  rcases Tokenize.outcomes run.settings.dialect (run.invocation.entry run.file).content with
    ⟨fault, hfault⟩ | ⟨source, hsource, hok | ⟨failure, hfailure⟩⟩
  · rw [Tokenize.run_of_fault hfault] at hsucceeds
    exact absurd hsucceeds (Nat.succ_ne_zero 1)
  · have hfound : run.source = source := by
      unfold TokenizeRun.source
      rw [hsource]
    rw [hfound]
    exact ⟨hsource, hok⟩
  · rw [Tokenize.run_of_failure hsource hfailure] at hsucceeds
    exact absurd hsucceeds (Nat.succ_ne_zero 0)

/-- The output has a line for each token. -/
theorem output_eq (run : TokenizeRun) :
    run.output = Text.terminateLines (run.tokens.map (·.line run.positions)) := by
  obtain ⟨hsource, hok⟩ := run.source_spec
  unfold output
  rw [run.run_eq, Tokenize.run_of_ok hsource hok]
  rfl

theorem lines_output (run : TokenizeRun) :
    Text.lines run.output = run.tokens.map (·.line run.positions) := by
  rw [run.output_eq, LocatedToken.lines_terminateLines]

theorem count_output (run : TokenizeRun) :
    run.output.count Text.lineFeed = run.tokens.length := by
  have hlines : ∀ line ∈ run.tokens.map (·.line run.positions), Text.lineFeed ∉ line := by
    intro line hline
    obtain ⟨located, -, rfl⟩ := List.mem_map.mp hline
    exact located.lineFeed_not_mem_line run.positions
  rw [run.output_eq, Text.count_terminateLines hlines, List.length_map]

/-- Outputs are equal exactly if their lines are. -/
theorem output_eq_iff (run run' : TokenizeRun) :
    run.output = run'.output ↔
      run.tokens.map (·.line run.positions) = run'.tokens.map (·.line run'.positions) := by
  constructor
  · intro h
    rw [← run.lines_output, h, run'.lines_output]
  · intro h
    rw [run.output_eq, h, run'.output_eq]

/-- A call that names a file with a text that is lexed without a failure. -/
def ofCall {environment : Environment} {dialect : Dialect} (call : TokenizeCall)
    (hdialect : dialect.Chosen call.options environment) (input : Text) {entry : Text → Entry}
    {bytes : List UInt8} (hfile : entry call.file = .file bytes) {source : Text}
    (hsource : Utf8.decodeFile bytes = .ok source) (hok : (dialect.lex source).ok = true) :
    TokenizeRun where
  invocation := ⟨call.words, environment, input, entry⟩
  settings := ⟨dialect, call.verbose, call.positions⟩
  file := call.file
  plan_eq := call.plan_eq hdialect input (by rw [hfile]; rfl)
  succeeds := by
    have hrun := call.run_eq hdialect input hfile
    rw [@Tokenize.run_of_ok ⟨dialect, call.verbose, call.positions⟩ _ _ _ hsource hok] at hrun
    exact congrArg Response.exitCode hrun

/-! ## Outputs and tokens -/

/-- **Tokens are shown faithfully.** Whatever dialects and texts two tokens are lexed from, they are
shown equally exactly if they are equal, which for them is the same as to be the same kind with
the same payload, and no token is shown by a character that ends lines. So two calls that succeed
and ask for no positions leave the same output exactly if their tokens are equal; if both ask for
positions, exactly if the tokens are equal and stand at the same positions. The output has as many
lines as there are tokens. -/
theorem output_faithful :
    (∀ (dialect dialect' : Dialect) (text text' : Text),
      ∀ a ∈ (dialect.lex text).tokens, ∀ b ∈ (dialect'.lex text').tokens,
        (a.token.text = b.token.text ↔ a.token.same b.token = true) ∧
        (a.token.same b.token = true ↔ a.token = b.token) ∧
        ∀ c ∈ a.token.text, c ∉ Text.lineBoundaries) ∧
    ∀ run run' : TokenizeRun,
      (run.positions = false → run'.positions = false →
        (run.output = run'.output ↔
          run.tokens.map (·.token) = run'.tokens.map (·.token))) ∧
      (run.positions = true → run'.positions = true →
        (run.output = run'.output ↔ run.tokens = run'.tokens)) ∧
      (Text.lines run.output).length = run.tokens.length ∧
      run.output.count Text.lineFeed = run.tokens.length := by
  constructor
  · intro dialect dialect' text text' a ha b hb
    obtain ⟨_, _, hwritten⟩ := Dialect.exists_lexeme ha
    obtain ⟨_, _, hwritten'⟩ := Dialect.exists_lexeme hb
    have hsame := hwritten.same_iff hwritten'
    refine ⟨?_, hsame, fun c hc => a.token.allPrintable_text.not_mem_lineBoundaries hc⟩
    rw [hsame]
    constructor
    · exact hwritten.eq_of_text hwritten'
    · exact congrArg Token.text
  · intro run run'
    refine ⟨fun hwithout hwithout' => ?_, fun hwith hwith' => ?_, ?_, run.count_output⟩
    · rw [run.output_eq_iff, hwithout, hwithout']
      exact Dialect.map_token_eq_iff _ _ _ _
    · rw [run.output_eq_iff, hwith, hwith']
      exact Dialect.tokens_eq_iff _ _ _ _
    · rw [run.lines_output, List.length_map]

end TokenizeRun

/-! ## Two files -/

/-- The call finds a text in its file, and no settings. -/
def TokenizeRun.inFull (call : TokenizeCall)
    (hoptions : ∀ option ∈ call.options, option.1 ≠ .variant) (text : Text)
    (hmark : text.head? ≠ some '\uFEFF') (hok : (Dialect.full.lex text).ok = true) : TokenizeRun :=
  @ofCall Environment.empty Dialect.full call (Dialect.Chosen.settings hoptions rfl) []
    (fun _ => .file (Utf8.encode text)) _ rfl text
    (Utf8.decodeFile_eq_ok (Utf8.withoutMark_encode hmark)) hok

/-- Two files that differ in a space have the same tokens at different positions, and a literal is
shown differently from a name with the same letters. -/
theorem TokenizeRun.output_faithful_space :
    let plain := TokenizeCall.detailed "p.kum".toList rfl
    let near := inFull plain (by decide) "x 'x'".toList (by decide) (by decide +kernel)
    let far := inFull plain (by decide) "x  'x'".toList (by decide) (by decide +kernel)
    let placed := TokenizeCall.located "p.kum".toList rfl
    let near' := inFull placed (by decide) "x 'x'".toList (by decide) (by decide +kernel)
    let far' := inFull placed (by decide) "x  'x'".toList (by decide) (by decide +kernel)
    (near.positions = false ∧ far.positions = false ∧ near.output = far.output) ∧
      (near'.positions = true ∧ far'.positions = true ∧ near'.output ≠ far'.output) ∧
      (Text.lines near'.output).length = 2 ∧
      ⟨.identifier ['x'], ⟨1, 1⟩⟩ ∈ near.tokens ∧ ⟨.string "'x'".toList, ⟨1, 3⟩⟩ ∈ near.tokens ∧
      Token.text (.identifier ['x']) ≠ Token.text (.string "'x'".toList) := by
  intro plain near far placed near' far'
  obtain ⟨htexts, hruns⟩ := output_faithful
  have hname : ⟨.identifier ['x'], ⟨1, 1⟩⟩ ∈ near.tokens := by decide +kernel
  have hliteral : ⟨.string "'x'".toList, ⟨1, 3⟩⟩ ∈ near.tokens := by decide +kernel
  refine ⟨⟨rfl, rfl, ?_⟩, ⟨rfl, rfl, ?_⟩, ?_, hname, hliteral, ?_⟩
  · exact ((hruns near far).1 rfl rfl).mpr (by decide +kernel)
  · rw [Ne, (hruns near' far').2.1 rfl rfl]
    decide +kernel
  · exact (hruns near' far').2.2.1.trans (by decide +kernel)
  · intro htext
    obtain ⟨hsame, -, -⟩ := htexts _ _ _ _ _ hname _ hliteral
    exact absurd (hsame.mp htext) (by decide)

end ScriptLexer
