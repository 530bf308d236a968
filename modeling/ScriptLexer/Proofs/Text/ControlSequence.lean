import ScriptLexer.Proofs.Segmentation
import ScriptLexer.Proofs.Text.Digits
import ScriptLexer.Text.ControlSequence

set_option autoImplicit false

/-! # Control sequences that are left out

A text loses its control sequences when it is printed. No sequence reaches over a line feed, so
the lines of a message lose theirs one by one (`plain_joinLines`). A diagnostic of the lexer holds
none but in the row that it shows, so it is printed as one with a plain row
(`Diagnostic.plain_shown`). -/

namespace ScriptLexer

namespace Text

theorem plain_nil : plain [] = [] := by
  rw [plain]

theorem plain_cons {c : Char} (hc : c ≠ escape) (text : Text) :
    plain (c :: text) = c :: plain text := by
  rw [plain]
  intro rest h
  exact absurd h hc

theorem plain_escape {text : Text} (h : text.head? ≠ some '[') :
    plain (escape :: text) = escape :: plain text := by
  rw [plain]
  intro rest hescape hrest
  exact h (by rw [hrest]; rfl)

theorem plain_sequence {text rest : Text} (h : afterSequence? text = some rest) :
    plain (escape :: '[' :: text) = plain rest := by
  rw [plain]
  split
  next heq => rw [h] at heq; rw [Option.some.inj heq]
  next heq => rw [h] at heq; simp at heq

theorem plain_incomplete {text : Text} (h : afterSequence? text = none) :
    plain (escape :: '[' :: text) = escape :: plain ('[' :: text) := by
  rw [plain]
  split
  next heq => rw [h] at heq; simp at heq
  next => rfl

/-- No control sequence reaches over a line feed. -/
theorem afterSequence?_append_lineFeed (a b : Text) :
    afterSequence? (a ++ lineFeed :: b) = (afterSequence? a).map (· ++ lineFeed :: b) := by
  have hstop : ∀ t : Text, (lineFeed :: t).dropWhile isParameter = lineFeed :: t :=
    fun t => rfl
  have hdrop : (a ++ lineFeed :: b).dropWhile isParameter =
      a.dropWhile isParameter ++ lineFeed :: b := by
    rw [List.dropWhile_append]
    split
    next hnil => rw [List.isEmpty_iff.mp hnil, hstop, List.nil_append]
    next => rfl
  rw [afterSequence?, hdrop, afterSequence?]
  cases a.dropWhile isParameter with
  | nil => rfl
  | cons c rest =>
    simp only [List.cons_append]
    split <;> rfl

theorem plain_append_lineFeed (a b : Text) :
    plain (a ++ lineFeed :: b) = plain a ++ lineFeed :: plain b := by
  induction a using plain.induct with
  | case1 =>
    rw [plain_nil]
    exact plain_cons (show lineFeed ≠ escape by decide) b
  | case2 rest after hafter ih =>
    have hafter' : afterSequence? (rest ++ lineFeed :: b) = some (after ++ lineFeed :: b) := by
      rw [afterSequence?_append_lineFeed, hafter, Option.map_some]
    rw [plain_sequence hafter, ← ih]
    exact plain_sequence hafter'
  | case3 rest hnone ih =>
    have hnone' : afterSequence? (rest ++ lineFeed :: b) = none := by
      rw [afterSequence?_append_lineFeed, hnone, Option.map_none]
    show plain (escape :: '[' :: (rest ++ lineFeed :: b)) = _
    rw [plain_incomplete hnone, plain_incomplete hnone', List.cons_append]
    exact congrArg (escape :: ·) ih
  | case4 c rest hopen ih =>
    by_cases hc : c = escape
    · subst hc
      have hhead : rest.head? ≠ some '[' := by
        intro hhead
        obtain ⟨more, rfl⟩ := List.head?_eq_some_iff.mp hhead
        exact hopen more rfl rfl
      have hhead' : (rest ++ lineFeed :: b).head? ≠ some '[' := by
        cases rest with
        | nil => exact fun h => absurd (Option.some.inj h) (by decide)
        | cons d rest => exact hhead
      rw [plain_escape hhead, List.cons_append, plain_escape hhead', ih, List.cons_append]
    · rw [plain_cons hc, List.cons_append, plain_cons hc, ih, List.cons_append]

/-- The lines of a text lose their control sequences one by one. -/
theorem plain_joinLines (lines : List Text) :
    plain (joinLines lines) = joinLines (lines.map plain) := by
  induction lines with
  | nil => rw [joinLines, List.intercalate_nil, plain_nil]; rfl
  | cons line lines ih =>
    cases lines with
    | nil => rw [joinLines, List.intercalate_singleton]; exact List.intercalate_singleton.symm
    | cons next lines =>
      -- behind the first line stand a line feed and the lines that follow
      have hjoin : ∀ (first second : Text) (more : List Text),
          joinLines (first :: second :: more) =
            first ++ lineFeed :: joinLines (second :: more) := by
        intro first second more
        rw [joinLines, List.intercalate_cons_cons, List.append_assoc]
        rfl
      rw [List.map_cons] at ih
      rw [hjoin, plain_append_lineFeed, ih, List.map_cons, List.map_cons, hjoin]

theorem plain_append {a : Text} (h : escape ∉ a) (b : Text) : plain (a ++ b) = a ++ plain b := by
  induction a with
  | nil => rfl
  | cons c a ih =>
    rw [List.mem_cons, not_or] at h
    rw [List.cons_append, plain_cons (Ne.symm h.1), ih h.2, List.cons_append]

theorem plain_eq_self {a : Text} (h : escape ∉ a) : plain a = a := by
  have happend := plain_append h []
  rwa [plain_nil, List.append_nil] at happend

end Text

/-! ## Diagnostics -/

namespace Fault

/-- The words for the fault hold no control sequences. -/
structure IsPlain (fault : Fault) : Prop where
  message : fault.message.plain = fault.message
  hint : ∀ hint, fault.hint? = some hint → hint.plain = hint

theorem isPlain_unknownSymbol (c : Char) : (Fault.unknownSymbol [c]).IsPlain := by
  refine ⟨?_, fun hint h => ?_⟩
  · -- an escape character is followed by the apostrophe, which opens no sequence
    have hquoted : Text.plain [c, Text.apostrophe] = [c, Text.apostrophe] := by
      have hclose : Text.plain [Text.apostrophe] = [Text.apostrophe] := by
        rw [Text.plain_cons (by decide), Text.plain_nil]
      by_cases hc : c = Text.escape
      · rw [hc, Text.plain_escape (by decide), hclose]
      · rw [Text.plain_cons hc, hclose]
    have hsymbol : Text.plain (Text.inApostrophes [c]) = Text.inApostrophes [c] := by
      show Text.plain (Text.apostrophe :: [c, Text.apostrophe]) = _
      rw [Text.plain_cons (by decide), hquoted]
      rfl
    have hmessage : (unknownSymbol [c]).message =
        "Unknown symbol ".toList ++ Text.inApostrophes [c] := rfl
    have hfree : Text.escape ∉ "Unknown symbol ".toList := by decide
    rw [hmessage, Text.plain_append hfree, hsymbol]
  · obtain rfl := Option.some.inj h
    exact Text.plain_eq_self (by decide)

theorem isPlain_literal (fault : Literal.Fault) : (Fault.literal fault).IsPlain := by
  cases fault with
  | unterminated =>
    refine ⟨Text.plain_eq_self (by decide), fun hint h => ?_⟩
    obtain rfl := Option.some.inj h
    exact Text.plain_eq_self (by decide)
  | broken =>
    refine ⟨Text.plain_eq_self (by decide), fun hint h => ?_⟩
    obtain rfl := Option.some.inj h
    exact Text.plain_eq_self (by decide)

end Fault

namespace Diagnostic

variable {diagnostic : Diagnostic}

/-- The diagnostic as it is printed: with no control sequences in the row that is shown. -/
def plain (diagnostic : Diagnostic) : Diagnostic :=
  { diagnostic with sourceLine? := diagnostic.sourceLine?.map Text.plain }

theorem plain_headline (h : diagnostic.fault.IsPlain) :
    diagnostic.headline.map Text.plain = diagnostic.headline := by
  have hplace : Text.escape ∉ "Lexer failed at ".toList ++ diagnostic.position.text := by
    rw [Position.text, List.mem_append, List.mem_append, List.mem_cons]
    rintro (hmem | hmem | hmem | hmem)
    · exact absurd hmem (by decide)
    · exact Text.not_mem_ofInt (by decide) (by decide) _ hmem
    · exact absurd hmem (by decide)
    · exact Text.not_mem_ofInt (by decide) (by decide) _ hmem
  simp only [headline, List.map_cons, List.map_nil, Text.plain_eq_self hplace, h.message]

theorem plain_pointer (row : Text) :
    (diagnostic.pointer row).map Text.plain = diagnostic.pointer row.plain := by
  have hcaret : ∀ count, Text.escape ∉ List.replicate count Text.space ++ ['^'] := by
    intro count hmem
    rcases List.mem_append.mp hmem with hmem | hmem
    · exact absurd (List.eq_of_mem_replicate hmem) (by decide)
    · exact absurd hmem (by decide)
  simp only [pointer, List.map_cons, List.map_nil, Text.plain_eq_self (hcaret _)]
  rw [Text.plain_append (by decide)]

theorem plain_advice {hint? : Option Text} (h : ∀ hint, hint? = some hint → hint.plain = hint) :
    (advice hint?).map Text.plain = advice hint? := by
  unfold advice
  split
  next c hint =>
    rw [List.map_cons, Text.plain_append (by decide), h _ rfl]
    rfl
  · rfl

/-- A diagnostic in plain words is printed with a plain row. -/
theorem plain_shown (h : diagnostic.fault.IsPlain) (verbose : Bool) :
    (diagnostic.shown verbose).plain = diagnostic.plain.shown verbose := by
  have hsummary : diagnostic.summary.plain = diagnostic.summary := by
    rw [summary, Text.plain_joinLines, plain_headline h]
  cases verbose with
  | false => exact hsummary
  | true =>
    show diagnostic.report.plain = diagnostic.plain.report
    rw [report, Text.plain_joinLines, List.map_append, List.map_append, plain_headline h,
      plain_advice h.hint, report]
    obtain ⟨fault, position, sourceLine?⟩ := diagnostic
    cases sourceLine? with
    | none => rfl
    | some row =>
      simp only [plain_pointer]
      rfl

end Diagnostic

/-- What lexing finds at fault is put into words without control sequences. -/
theorem Dialect.isPlain_of_lex {dialect : Dialect} {text : Text} {failure : Diagnostic}
    (h : (dialect.lex text).failure? = some failure) : failure.fault.IsPlain := by
  obtain ⟨stop, hstop, rfl⟩ := Option.map_eq_some_iff.mp h
  obtain ⟨rest, -, hending⟩ := (segmentation_cut dialect.surface text).exists_rest
  have hending' : Ending dialect.surface rest (some stop) := hstop ▸ hending
  cases hending' with
  | unknownSymbol _ _ _ => exact Fault.isPlain_unknownSymbol _
  | unterminated _ _ => exact Fault.isPlain_literal _
  | brokenAtLineFeed _ _ _ => exact Fault.isPlain_literal _
  | brokenAtReturn _ _ => exact Fault.isPlain_literal _

end ScriptLexer
