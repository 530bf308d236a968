import ScriptLexer.Proofs.Extension
import ScriptLexer.Proofs.Parts
import ScriptLexer.Proofs.Positions

set_option autoImplicit false

/-! # Separators

Spaces and the characters of line breaks stand between lexemes. The rules that come before the one
for string literals have none of them in their lexemes, as long as none is a letter
(`Lexeme.not_mem`), and the lexemes of the other two rules never go on. So what the rules pick in a
text does not change if a separator and anything else is written behind it
(`Munch.append_separator`), and a text that is lexed without a failure can be continued from a
separator as if lexing started afresh there (`Dialect.lex_append_separator`). -/

namespace ScriptLexer

/-- The characters that stand between lexemes. -/
def Text.separators : List Char := [Text.space, Text.carriageReturn, Text.lineFeed]

theorem Text.mem_separators {c : Char} :
    c ∈ separators ↔ c = space ∨ c = carriageReturn ∨ c = lineFeed := by
  simp [separators]

variable {surface : Surface} {rule : Rule} {token : Token} {text more lexeme : Text}

/-! ## Lexemes and separators -/

/-- Before the rule for string literals, a lexeme holds no separator that is not a letter. -/
theorem Lexeme.not_mem (h : Lexeme surface rule token lexeme)
    (hrank : rule.rank < Rule.string.rank) {c : Char} (hc : c ∈ Text.separators)
    (hletter : surface.isLetter c = false) : c ∉ lexeme := by
  intro hmem
  cases h with
  | identifier _ hletters =>
    rw [hletters c hmem] at hletter
    simp at hletter
  | number hnumeral _ =>
    have hclass := hnumeral.mem hmem
    rcases Text.mem_separators.mp hc with rfl | rfl | rfl <;> exact absurd hclass (by decide)
  | operator _ op =>
    rcases Text.mem_separators.mp hc with rfl | rfl | rfl <;> revert hmem <;> cases op <;> decide
  | string _ => exact absurd hrank (by decide)
  | lineFeed => exact absurd hrank (by decide)
  | carriageReturn => exact absurd hrank (by decide)

/-- From the rule for string literals on, lexemes never go on. -/
theorem Rule.not_continues_of_rank (hrank : ¬rule.rank < Rule.string.rank) (c : Char) :
    ¬rule.continues surface c := by
  cases rule with
  | identifier => exact absurd (by decide) hrank
  | number => exact absurd (by decide) hrank
  | operator => exact absurd (by decide) hrank
  | string => exact id
  | lineBreak => exact id

/-- The rules pick the same token in another text, if it can be written there as well and the rules
before the one for string literals find nothing new there. -/
theorem Munch.transfer {text' lexeme' : Text} (h : Munch surface rule text token lexeme)
    (hwritten : Lexeme surface rule token lexeme') (hfront : lexeme' <+: text')
    (hlength : lexeme.length ≤ lexeme'.length)
    (hearly : ∀ early token found, Rule.rank early < Rule.string.rank →
      Lexeme surface early token found → found <+: text' → found <+: text) :
    Munch surface rule text' token lexeme' := by
  have hlongest : rule.Longest surface text' token lexeme' := by
    by_cases hrank : rule.rank < Rule.string.rank
    · exact ⟨hwritten, hfront, fun token' found hfound hfront' =>
        (h.longest token' found hfound (hearly _ _ _ hrank hfound hfront')).trans hlength⟩
    · obtain ⟨rest, rfl⟩ := hfront
      exact hwritten.longest fun c _ => Rule.not_continues_of_rank hrank c
  refine ⟨hlongest, fun earlier hrank happlies => ?_⟩
  by_cases hstring : earlier.rank < Rule.string.rank
  · obtain ⟨token', found, hfound, hfront'⟩ := happlies
    exact h.first earlier hrank ⟨token', found, hfound, hearly _ _ _ hstring hfound hfront'⟩
  · -- the earlier rule is the one for literals, and they do not start like line breaks
    have hearlier : earlier = .string := by
      cases earlier <;> cases rule <;> simp [Rule.rank] at hstring hrank ⊢
    subst hearlier
    exact hlongest.applies.not_string hrank happlies

/-! ## Text behind a separator -/

/-- A beginning of two texts in a row is one of the first of them, if the character that the second
starts with is not in it. -/
theorem Text.front_of_append (hfree : ∀ c ∈ more.head?, c ∉ lexeme)
    (hfront : lexeme <+: text ++ more) : lexeme <+: text := by
  rcases List.prefix_or_prefix_of_prefix hfront (List.prefix_append text more) with h | h
  · exact h
  · obtain ⟨beyond, rfl⟩ := h
    cases beyond with
    | nil => simp
    | cons c beyond =>
      obtain ⟨rest, rfl⟩ := (List.prefix_append_right_inj text).mp hfront
      exact absurd (by simp) (hfree c rfl)

/-- What the rules pick in a text they also pick if a separator follows it. -/
theorem Munch.append_separator
    (hmore : ∀ c ∈ more.head?, c ∈ Text.separators ∧ surface.isLetter c = false)
    (h : Munch surface rule text token lexeme) :
    Munch surface rule (text ++ more) token lexeme := by
  refine h.transfer h.written (h.front.trans (List.prefix_append _ _)) le_rfl ?_
  intro early token' found hrank hfound hfront
  exact Text.front_of_append
    (fun c hc => hfound.not_mem hrank (hmore c hc).1 (hmore c hc).2) hfront

/-! ## Lexing from a separator on -/

namespace Segment

theorem advance_spaces (count : Nat) (p : Position) :
    (⟨List.replicate count Text.space, none⟩ : Segment).advance p = p.right count := by
  show p.right (List.replicate count Text.space).length = _
  rw [List.length_replicate]

/-- A run of spaces can be divided in two. -/
theorem alike_spaces (count more : Nat) (segments : List Segment) :
    Alike (⟨List.replicate (count + more) Text.space, none⟩ :: segments)
      (⟨List.replicate count Text.space, none⟩ :: ⟨List.replicate more Text.space, none⟩ ::
        segments) := by
  have hright : ∀ p : Position, (p.right count).right more = p.right (count + more : Nat) := by
    intro p
    simp [Position.right, Int.add_assoc]
  refine ⟨?_, fun p index => ?_, fun p => ?_⟩
  · simp only [characters_cons]
    rw [← List.append_assoc, List.replicate_append_replicate]
  · simp only [occurrences, advance_spaces, hright, List.length_replicate, Nat.add_assoc]
  · simp only [advanceAll, List.foldl_cons, advance_spaces, hright]

/-- Spaces in front of a text are a segment of their own, or a part of its first one. -/
theorem alike_cut_spaces {count : Nat} (hcount : 0 < count) (text : Text) :
    Alike (surface.cut (List.replicate count Text.space ++ text)).segments
        (⟨List.replicate count Text.space, none⟩ :: (surface.cut text).segments) ∧
      (surface.cut (List.replicate count Text.space ++ text)).stop? =
        (surface.cut text).stop? := by
  obtain ⟨more, rest, rfl, hrest⟩ := Text.exists_run Text.space text
  cases more with
  | zero =>
    rw [List.replicate_zero, List.nil_append, Surface.cut_spaces hcount hrest]
    exact ⟨Alike.refl _, rfl⟩
  | succ more =>
    rw [← List.append_assoc, List.replicate_append_replicate,
      Surface.cut_spaces (by omega) hrest, Surface.cut_spaces (Nat.succ_pos more) hrest]
    exact ⟨alike_spaces count (more + 1) _, rfl⟩

end Segment

/-- The cut of a text without a fault goes on behind it, from a separator, with the cut of what
follows. -/
theorem Segmentation.append_separator
    (hmore : ∀ c ∈ more.head?, c ∈ Text.separators ∧ surface.isLetter c = false) {cut : Cut}
    (h : Segmentation surface text cut) (hstop : cut.stop? = none) :
    Segment.Alike (surface.cut (text ++ more)).segments
        (cut.segments ++ (surface.cut more).segments) ∧
      (surface.cut (text ++ more)).stop? = (surface.cut more).stop? := by
  induction h with
  | stop hending =>
    obtain rfl := hending.eq_nil_iff.mpr hstop
    exact ⟨Segment.Alike.refl _, rfl⟩
  | @spaces count rest cut hcount _ _ ih =>
    obtain ⟨hsegments, hstop?⟩ := ih hstop
    rw [List.append_assoc]
    have hspaces := @Segment.alike_cut_spaces surface count hcount (rest ++ more)
    exact ⟨hspaces.1.trans (hsegments.cons _), hspaces.2.trans hstop?⟩
  | @lexeme rule token lexeme rest cut hspace hmunch _ ih =>
    obtain ⟨hsegments, hstop?⟩ := ih hstop
    have hmunch' := hmunch.append_separator hmore
    have hspace' : (lexeme ++ rest ++ more).head? ≠ some Text.space := by
      obtain ⟨c, first, rfl, -⟩ := hmunch.written.starts
      exact hspace
    rw [Surface.cut_token hspace' (Surface.scan_eq_token_iff.mpr ⟨rule, hmunch'⟩),
      List.append_assoc, List.drop_left]
    exact ⟨hsegments.cons _, hstop?⟩

/-! ## True positions -/

/-- A position moves from one place in a text to another as it passes the characters between. -/
theorem Position.past_ofIndex {passed : Text} {index : Nat} (h : passed <+: text.drop index) :
    (ofIndex text index).past passed = ofIndex text (index + passed.length) := by
  obtain ⟨rest, hrest⟩ := h
  have htake : text.take (index + passed.length) = text.take index ++ passed := by
    rw [List.take_add, ← hrest, List.take_left]
  rw [ofIndex_eq_after, ofIndex_eq_after, ← after_append_past, ← List.map_take, ← List.map_take,
    htake, List.map_append]

/-- In front of a place that is not in the first row stands a line feed. -/
theorem Position.lineFeed_mem_of_row_ne {index : Nat} (h : (ofIndex text index).row ≠ 1) :
    Text.lineFeed ∈ text.take index := by
  by_contra hfree
  exact h (by simp [ofIndex, List.count_eq_zero.mpr hfree])

/-- The row around a place is the same with more text in front, if it starts behind that. -/
theorem Text.append_rowAt {index : Nat} (h : lineFeed ∈ text.take index) (front : Text) :
    (front ++ text).rowAt (front.length + index) = text.rowAt index := by
  rw [rowAt, List.take_length_add_append, List.drop_length_add_append, List.reverse_append,
    takeWhile_append_of_mem (List.mem_reverse.mpr h), rowAt]

namespace Dialect

variable {dialect : Dialect}

/-- If no letter is a line feed, the end position is the true one. -/
theorem endPosition_eq_ofIndex (hletter : dialect.isLetter Text.lineFeed = false) (text : Text) :
    dialect.endPosition text = Position.ofIndex text (dialect.lexedLength text) := by
  have hshaped := (segmentation_cut dialect.surface text).shaped
  have hafter := Segment.advanceAll_after hshaped []
  rw [List.nil_append, Segment.flatMap_rowEnds hshaped hletter] at hafter
  rw [Position.ofIndex_eq_after, ← List.map_take, take_lexedLength]
  exact hafter

/-- A text without a failure is lexed to its end. -/
theorem lexedLength_of_ok (hok : (dialect.lex text).ok = true) :
    dialect.lexedLength text = text.length := by
  obtain ⟨rest, htext, hending⟩ := (segmentation_cut dialect.surface text).exists_rest
  obtain rfl := hending.eq_nil_iff.mpr (lex_ok_iff.mp hok)
  rw [List.append_nil] at htext
  exact congrArg List.length htext.symm

/-- **Lexing starts afresh at a separator.** If no separator is a letter, a text that is lexed
without a failure can be continued from a separator: the tokens are those of the text, and then
those of what follows, put behind the true end of the text. Both fail or none does, and with the
same fault; the row that is shown is the same too, unless it is the first one. -/
theorem lex_append_separator (dialect : Dialect)
    (hletters : ∀ c ∈ Text.separators, dialect.isLetter c = false) {front more : Text}
    (hfront : (dialect.lex front).ok = true) (hmore : ∀ c ∈ more.head?, c ∈ Text.separators) :
    (dialect.lex (front ++ more)).tokens = (dialect.lex front).tokens ++
      (dialect.lex more).tokens.map (·.behind (Position.ofIndex front front.length)) ∧
    ((dialect.lex (front ++ more)).ok = true ↔ (dialect.lex more).ok = true) ∧
    ∀ failure, (dialect.lex more).failure? = some failure →
      ∃ failure', (dialect.lex (front ++ more)).failure? = some failure' ∧
        failure'.fault = failure.fault ∧
        failure'.position = failure.position.behind (Position.ofIndex front front.length) ∧
        (failure.position.row ≠ 1 → failure'.sourceLine? = failure.sourceLine?) := by
  have hfeed : dialect.isLetter Text.lineFeed = false :=
    hletters _ (Text.mem_separators.mpr (Or.inr (Or.inr rfl)))
  have hlength := lexedLength_of_ok hfront
  have hend : dialect.endPosition front = Position.ofIndex front front.length := by
    rw [endPosition_eq_ofIndex hfeed, hlength]
  obtain ⟨hsegments, hstop?⟩ := (segmentation_cut dialect.surface front).append_separator
    (fun c hc => ⟨hmore c hc, hletters c (hmore c hc)⟩) (lex_ok_iff.mp hfront)
  have hjoins : dialect.Joins front more (front ++ more) := ⟨hsegments, hstop?⟩
  rw [← hend]
  refine ⟨hjoins.tokens, ?_, fun failure hfailure => ?_⟩
  · rw [lex_ok_iff, lex_ok_iff, hstop?]
  · obtain ⟨stop, hstop, rfl⟩ := lex_failure?_eq_some_iff.mp hfailure
    refine ⟨_, hjoins.failure hstop, rfl, rfl, fun hrow => ?_⟩
    -- the position counts the line feeds in front of the place that is pointed at
    have hpassed := Ending.passed_prefix (ending_of_stop hstop)
    have hposition : (dialect.endPosition more).past stop.passed =
        Position.ofIndex more (dialect.lexedLength more + stop.passed.length) := by
      rw [endPosition_eq_ofIndex hfeed, Position.past_ofIndex hpassed]
    have hmem : Text.lineFeed ∈
        more.take (dialect.lexedLength more + stop.passed.length) :=
      Position.lineFeed_mem_of_row_ne (hposition ▸ hrow)
    show some ((front ++ more).rowAt (dialect.lexedLength front + _)) = some (more.rowAt _)
    rw [hlength, Text.append_rowAt hmem]

/-- A text that ends with a number in its second row, and what follows from a line break on. -/
theorem lex_append_separator_number :
    (∀ c ∈ Text.separators, full.isLetter c = false) ∧
      (full.lex "x 'a\\\nb' 1".toList).ok = true ∧
      (∀ c ∈ "\r\n  y #".toList.head?, c ∈ Text.separators) ∧
      (full.lex ("x 'a\\\nb' 1".toList ++ "\r\n  y #".toList)).tokens =
        [⟨.identifier ['x'], ⟨1, 1⟩⟩, ⟨.string "'a\\\nb'".toList, ⟨1, 3⟩⟩,
          ⟨.number ⟨false, .nearest 1 1⟩, ⟨2, 4⟩⟩, ⟨.lineBreak, ⟨2, 5⟩⟩,
          ⟨.identifier ['y'], ⟨3, 3⟩⟩] ∧
      ∃ failure, (full.lex ("x 'a\\\nb' 1".toList ++ "\r\n  y #".toList)).failure? = some failure ∧
        failure.position = ⟨3, 5⟩ ∧ failure.sourceLine? = some "  y #".toList := by
  have hletters : ∀ c ∈ Text.separators, full.isLetter c = false := by
    intro c hc
    rcases Text.mem_separators.mp hc with rfl | rfl | rfl <;> decide +kernel
  have hok : (full.lex "x 'a\\\nb' 1".toList).ok = true := by decide +kernel
  have hmore : ∀ c ∈ "\r\n  y #".toList.head?, c ∈ Text.separators := by
    rintro c ⟨⟩
    exact Text.mem_separators.mpr (Or.inr (Or.inl rfl))
  obtain ⟨htokens, -, hfailure⟩ := lex_append_separator full hletters hok hmore
  obtain ⟨failure, hfailure, -, hposition, hrow⟩ :=
    hfailure ⟨.unknownSymbol ['#'], ⟨2, 5⟩, some "  y #".toList⟩ (by decide +kernel)
  refine ⟨hletters, hok, hmore, htokens.trans (by decide +kernel), failure, hfailure, ?_, ?_⟩
  · exact hposition.trans (by decide +kernel)
  · exact hrow (by decide)

end Dialect

end ScriptLexer
