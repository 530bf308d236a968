import ScriptLexer.Text.Rows

set_option autoImplicit false

/-! # Lines and the ways to end them

A line is a text without line breaks, and a line break is a line feed, a carriage return or both
(`LineEnd`). Texts that are written line by line are read back as these lines, whichever of the
three ends them and whether or not the last line is ended (`TypedLines.lines_text`). -/

namespace ScriptLexer

namespace Text

/-- The text holds no line break. -/
structure IsLine (line : Text) : Prop where
  carriageReturn_not_mem : carriageReturn ∉ line
  lineFeed_not_mem : lineFeed ∉ line

instance (line : Text) : Decidable line.IsLine :=
  decidable_of_iff (carriageReturn ∉ line ∧ lineFeed ∉ line)
    ⟨fun h => ⟨h.1, h.2⟩, fun h => ⟨h.1, h.2⟩⟩

theorem IsLine.nil : IsLine [] := ⟨List.not_mem_nil, List.not_mem_nil⟩

theorem IsLine.cons {c : Char} {line : Text} (hreturn : c ≠ carriageReturn) (hfeed : c ≠ lineFeed)
    (h : line.IsLine) : IsLine (c :: line) := by
  constructor
  · rw [List.mem_cons, not_or]
    exact ⟨hreturn.symm, h.carriageReturn_not_mem⟩
  · rw [List.mem_cons, not_or]
    exact ⟨hfeed.symm, h.lineFeed_not_mem⟩

theorem IsLine.tail {c : Char} {line : Text} (h : IsLine (c :: line)) : line.IsLine :=
  ⟨fun hmem => h.carriageReturn_not_mem (List.mem_cons_of_mem c hmem),
    fun hmem => h.lineFeed_not_mem (List.mem_cons_of_mem c hmem)⟩

/-! ## The steps of reading lines -/

theorem lines_cons {c : Char} (hreturn : c ≠ carriageReturn) (hfeed : c ≠ lineFeed)
    (rest : Text) :
    lines (c :: rest) =
      match lines rest with
      | [] => [[c]]
      | line :: more => (c :: line) :: more := by
  rewrite [lines]
  · rfl
  · intro more hc
    exact absurd hc hreturn
  · intro hc
    exact absurd hc hreturn
  · intro hc
    exact absurd hc hfeed

/-- A line in front of a line break is read as it is. -/
theorem lines_append {line more : Text} (h : line.IsLine) {rest : List Text}
    (hmore : lines more = [] :: rest) : lines (line ++ more) = line :: rest := by
  induction line with
  | nil => exact hmore
  | cons c line ih =>
    have hreturn : c ≠ carriageReturn := fun hc => h.carriageReturn_not_mem (by simp [hc])
    have hfeed : c ≠ lineFeed := fun hc => h.lineFeed_not_mem (by simp [hc])
    rw [List.cons_append, lines_cons hreturn hfeed, ih h.tail]

/-- A line that nothing ends is read, unless it is empty. -/
theorem lines_eq_singleton {line : Text} (h : line.IsLine) (hne : line ≠ []) :
    lines line = [line] := by
  induction line with
  | nil => exact absurd rfl hne
  | cons c line ih =>
    have hreturn : c ≠ carriageReturn := fun hc => h.carriageReturn_not_mem (by simp [hc])
    have hfeed : c ≠ lineFeed := fun hc => h.lineFeed_not_mem (by simp [hc])
    rw [lines_cons hreturn hfeed]
    cases line with
    | nil => rfl
    | cons d line => rw [ih h.tail (List.cons_ne_nil d line)]

end Text

/-- The ways to end a line. -/
inductive LineEnd where
  /-- A line feed. -/
  | lineFeed
  /-- A carriage return and a line feed. -/
  | both
  /-- A carriage return. -/
  | carriageReturn
deriving DecidableEq, Repr

namespace LineEnd

/-- What is written behind a line to end it. -/
def text : LineEnd → Text
  | .lineFeed => [Text.lineFeed]
  | .both => [Text.carriageReturn, Text.lineFeed]
  | .carriageReturn => [Text.carriageReturn]

/-- A line break is read as the end of an empty line, unless it is a carriage return that a line
feed follows. -/
theorem lines_text_append (lineEnd : LineEnd) {rest : Text}
    (hrest : lineEnd = .carriageReturn → rest.head? ≠ some Text.lineFeed) :
    Text.lines (lineEnd.text ++ rest) = [] :: Text.lines rest := by
  cases lineEnd with
  | lineFeed => rfl
  | both => rfl
  | carriageReturn =>
    show Text.lines (Text.carriageReturn :: rest) = _
    rw [Text.lines]
    rintro more rfl
    exact hrest rfl rfl

/-- Lines as they are typed, each with its end. The last one is left without it, unless it is
`ended` as well. -/
def typed (lineEnd : LineEnd) (ended : Bool) : List Text → Text
  | [] => []
  | line :: more =>
    line ++ ((if ended || !more.isEmpty then lineEnd.text else []) ++ lineEnd.typed ended more)

/-- Lines that end with carriage returns hold no line feed. -/
theorem lineFeed_not_mem_typed {lines : List Text} (hlines : ∀ line ∈ lines, line.IsLine)
    (ended : Bool) : Text.lineFeed ∉ carriageReturn.typed ended lines := by
  induction lines with
  | nil => exact List.not_mem_nil
  | cons line lines ih =>
    have hline := (hlines line List.mem_cons_self).lineFeed_not_mem
    have hmore := ih fun more hmem => hlines more (List.mem_cons_of_mem line hmem)
    rw [typed, List.mem_append, List.mem_append]
    rintro (hmem | hmem | hmem)
    · exact hline hmem
    · split at hmem
      · exact absurd hmem (by decide)
      · exact List.not_mem_nil hmem
    · exact hmore hmem

/-- What is typed line by line is read line by line. -/
theorem lines_typed (lineEnd : LineEnd) {ended : Bool} {lines : List Text}
    (hlines : ∀ line ∈ lines, line.IsLine) (hlast : ended = false → lines.getLast? ≠ some []) :
    Text.lines (lineEnd.typed ended lines) = lines := by
  induction lines with
  | nil => rfl
  | cons line lines ih =>
    have hline := hlines line List.mem_cons_self
    have hmore : ∀ more ∈ lines, more.IsLine :=
      fun more hmem => hlines more (List.mem_cons_of_mem line hmem)
    rw [typed]
    split
    next hended =>
      -- the line is ended, and it is not the last one that is left open
      have hrest : lineEnd = .carriageReturn →
          (lineEnd.typed ended lines).head? ≠ some Text.lineFeed := by
        rintro rfl hhead
        exact lineFeed_not_mem_typed hmore ended (List.mem_of_head? hhead)
      have hopen : ended = false → lines.getLast? ≠ some [] := by
        intro hfalse
        have hne : lines ≠ [] := by
          rintro rfl
          simp [hfalse] at hended
        rw [← List.getLast?_cons_of_ne_nil hne]
        exact hlast hfalse
      rw [Text.lines_append hline (lineEnd.lines_text_append hrest), ih hmore hopen]
    next hended =>
      rw [Bool.not_eq_true, Bool.or_eq_false_iff, Bool.not_eq_false', List.isEmpty_iff] at hended
      obtain ⟨hfalse, rfl⟩ := hended
      have hne : line ≠ [] := by
        rintro rfl
        exact hlast hfalse rfl
      show Text.lines (line ++ []) = _
      rw [List.append_nil, Text.lines_eq_singleton hline hne]

end LineEnd

/-- Lines that each end with a line feed are read one by one. -/
theorem Text.lines_terminateLines {lines : List Text} (hlines : ∀ line ∈ lines, line.IsLine) :
    Text.lines (terminateLines lines) = lines := by
  have htyped : ∀ lines, terminateLines lines = LineEnd.lineFeed.typed true lines := by
    intro lines
    induction lines with
    | nil => rfl
    | cons line lines ih =>
      rw [LineEnd.typed, ← ih, terminateLines, List.flatMap_cons, List.append_assoc]
      rfl
  rw [htyped]
  exact LineEnd.lines_typed .lineFeed hlines fun hended => absurd hended (by decide)

/-- Lines that are ended by line feeds have as many of them. -/
theorem Text.count_terminateLines {lines : List Text} (hlines : ∀ line ∈ lines, lineFeed ∉ line) :
    (terminateLines lines).count lineFeed = lines.length := by
  induction lines with
  | nil => rfl
  | cons line lines ih =>
    have hline := List.count_eq_zero.mpr (hlines line List.mem_cons_self)
    have hmore := ih fun line hmem => hlines line (List.mem_cons_of_mem _ hmem)
    rw [terminateLines] at hmore ⊢
    rw [List.flatMap_cons, List.count_append, List.count_append, hline, hmore, List.length_cons]
    exact Nat.add_comm _ _

end ScriptLexer
