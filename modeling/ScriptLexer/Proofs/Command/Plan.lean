import ScriptLexer.Command.Plan
import ScriptLexer.Proofs.Command.Arguments

set_option autoImplicit false

/-! # What calls ask for

A call that is written by the grammar of arguments, behind the options of the program the name of
a command and then its own words, asks for that command in the dialect of the call
(`Dialect.Chosen`, `Plan.ofCall_command`). -/

namespace ScriptLexer

/-- The dialect of a call is the one that is named last or, if none is named, the one that the
settings describe. -/
inductive Dialect.Chosen (options : List (OptionName × Option Text)) (environment : Environment) :
    Dialect → Prop where
  | named {before after : List (OptionName × Option Text)} {name : Text} {dialect : Dialect}
      (hoptions : options = before ++ (.variant, some name) :: after)
      (hlast : ∀ option ∈ after, option.1 ≠ .variant) (hname : Dialect.named name = .ok dialect) :
      Dialect.Chosen options environment dialect
  | settings {dialect : Dialect} (hnone : ∀ option ∈ options, option.1 ≠ .variant)
      (hsettings : Dialect.ofEnvironment environment = .ok dialect) :
      Dialect.Chosen options environment dialect

namespace Plan

variable {environment : Environment} {dialect : Dialect} {kindOf : Text → FileKind}
  {options : List (OptionName × Option Text)} {operands words : List Text} {file name : Text}

theorem ok_bind {α β : Type} (value : α) (next : α → Except UsageError β) :
    (Except.ok value >>= next) = next value := rfl

theorem readFor_eq_ok {scope : Scope} {arguments : Arguments}
    (h : Arguments.Written scope.options (scope == .program) words arguments) :
    readFor scope words = .ok arguments := by
  rw [readFor, h.read]

theorem ofEager?_eq_none (scope : Scope) (operands : List Text)
    (h : ∀ option ∈ options, option.1 ≠ .version ∧ option.1 ≠ .help) :
    ofEager? scope ⟨options, operands⟩ = none := by
  have hfind : options.find? (fun option => [OptionName.version, .help].contains option.1) =
      none := by
    rw [List.find?_eq_none]
    intro option hoption
    simpa using h option hoption
  rw [ofEager?, Arguments.firstOf?, hfind]
  rfl

/-- The dialect of a call is found. -/
theorem exists_variant?_eq_ok (h : dialect.Chosen options environment) (operands : List Text) :
    ∃ named?, variant? ⟨options, operands⟩ = .ok named? ∧
      Plan.dialect named? environment = .ok dialect := by
  cases h with
  | @named before after name _ hoptions hlast hname =>
    have hvalue : (⟨options, operands⟩ : Arguments).lastValue? .variant = some name := by
      -- from the end, no other name is found before the last one
      have hafter : after.reverse.find? (·.1 == OptionName.variant) = none := by
        rw [List.find?_eq_none]
        intro option hoption
        simpa using hlast option (List.mem_reverse.mp hoption)
      rw [Arguments.lastValue?, hoptions, List.reverse_append, List.reverse_cons,
        List.append_assoc, List.find?_append, hafter]
      rfl
    exact ⟨some dialect, by rw [variant?, hvalue]; simp only [hname], rfl⟩
  | settings hnone hsettings =>
    have hvalue : (⟨options, operands⟩ : Arguments).lastValue? .variant = none := by
      have hfind : options.reverse.find? (·.1 == OptionName.variant) = none := by
        rw [List.find?_eq_none]
        intro option hoption
        simpa using hnone option (List.mem_reverse.mp hoption)
      rw [Arguments.lastValue?, hfind]
      rfl
    exact ⟨none, by rw [variant?, hvalue], by simp only [Plan.dialect, hsettings]⟩

/-- The command of a call goes on with the words behind its name. -/
theorem ofCall_command {scope : Scope} (hcommand : commands.lookup name = some scope)
    (hwritten : Arguments.Written Scope.program.options true words
      ⟨options, name :: operands⟩)
    (heager : ∀ option ∈ options, option.1 ≠ .version ∧ option.1 ≠ .help)
    (hdialect : dialect.Chosen options environment) :
    ofCall kindOf environment words =
      if scope == .repl then ofRepl dialect (options.any (·.1 == .verbose)) operands
      else ofTokenize kindOf dialect (options.any (·.1 == .verbose)) operands := by
  have hread := @readFor_eq_ok _ .program _ hwritten
  have hidle := ofEager?_eq_none .program (name :: operands) heager
  obtain ⟨named?, hvariant, hfound⟩ := exists_variant?_eq_ok hdialect (name :: operands)
  -- without words, there would be no command either
  have hne : ¬words.isEmpty = true := by
    intro hempty
    have hnothing := hwritten.read
    rw [List.isEmpty_iff.mp hempty, Arguments.read] at hnothing
    simp at hnothing
  rw [ofCall, if_neg hne, hread]
  simp only [ok_bind, hidle, hvariant, hcommand, hfound]
  rfl

/-- The letter for details, in front of the name of a command. -/
theorem written_verbose (hname : Arguments.looksLikeOption name = false) :
    Arguments.Written Scope.program.options true ("-v".toList :: name :: words)
      ⟨[(.verbose, none)], name :: words⟩ := by
  have hknown : ∀ option ∈ [OptionName.verbose], option ∈ Scope.program.options := by decide
  have hcommand := @Arguments.Written.command Scope.program.options true name words rfl hname
  exact @Arguments.Written.letters _ _ [.verbose] ['v'] _ _ (by simp) hknown rfl hcommand

/-- A single option that asks for nothing else. -/
theorem single_not_eager {name : OptionName}
    (h : [OptionName.version, .help].contains name = false) :
    ∀ option ∈ [(name, (none : Option Text))], option.1 ≠ .version ∧ option.1 ≠ .help := by
  intro option hoption
  obtain rfl := List.mem_singleton.mp hoption
  simpa using h

theorem locations_not_eager :
    ∀ option ∈ [(OptionName.locations, (none : Option Text))],
      option.1 ≠ .version ∧ option.1 ≠ .help :=
  single_not_eager rfl

/-! ## The commands -/

theorem ofTokenize_eq_ok
    (hwritten : Arguments.Written Scope.tokenize.options false words ⟨options, [file]⟩)
    (heager : ∀ option ∈ options, option.1 ≠ .version ∧ option.1 ≠ .help)
    (hfile : kindOf file = .file) (dialect : Dialect) (verbose : Bool) :
    ofTokenize kindOf dialect verbose words =
      .ok (.tokenize ⟨dialect, verbose, options.any (·.1 == .locations)⟩ file) := by
  have hread := @readFor_eq_ok _ .tokenize _ hwritten
  have hidle := ofEager?_eq_none .tokenize [file] heager
  rw [ofTokenize, hread]
  simp only [ok_bind, hidle, hfile]
  rfl

theorem ofRepl_eq_ok
    (hwritten : Arguments.Written Scope.repl.options false words ⟨options, []⟩)
    (heager : ∀ option ∈ options, option.1 ≠ .version ∧ option.1 ≠ .help)
    (dialect : Dialect) (verbose : Bool) :
    ofRepl dialect verbose words =
      .ok (.repl ⟨dialect, verbose, options.any (·.1 == .locations)⟩) := by
  have hread := @readFor_eq_ok _ .repl _ hwritten
  have hidle := ofEager?_eq_none .repl [] heager
  rw [ofRepl, hread]
  simp only [ok_bind, hidle]
  rfl

end Plan

end ScriptLexer
