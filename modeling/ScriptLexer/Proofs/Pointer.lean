import ScriptLexer.Proofs.Separator
import ScriptLexer.Proofs.Text.Printable
import ScriptLexer.Proofs.Text.RowAround

set_option autoImplicit false

/-! # What a diagnostic points at

The position of a failure is counted by the lexer as it goes, and the row that is shown is taken
from the text around an index. The file shows that the two agree if no letter is a line feed
(`Dialect.lex_failure_pointer`): the row is the one that the position names, an unknown symbol
stands in it at the column of the position, and the place where a literal fails is the end of the
row. So the caret of the report stands below the symbol, or behind the text of the row. -/

namespace ScriptLexer

/-! ## The place in its row -/

/-- The column of an index counts the characters of its row in front of it. -/
theorem Position.ofIndex_eq (text : Text) (index : Nat) :
    ofIndex text index =
      ⟨((text.take index).count Text.lineFeed : Nat) + 1, (text.rowFront index).length + 1⟩ := by
  simp only [ofIndex, Text.rowFront, List.length_reverse, mk.injEq]
  omega

/-- An ending stops at an unknown symbol, which is a single character and no line feed, or where
nothing is left of the row but a carriage return that belongs to the line break. -/
theorem Ending.at_place {surface : Surface} {rest : Text} {stop : Stop}
    (h : Ending surface rest (some stop)) :
    (∃ c more, stop.fault = .unknownSymbol [c] ∧ c ≠ Text.lineFeed ∧
        rest.drop stop.passed.length = c :: more) ∨
      ∃ fault, stop.fault = .literal fault ∧
        ∀ c ∈ (rest.drop stop.passed.length).takeWhile (· != Text.lineFeed),
          (c == Text.carriageReturn) = true := by
  cases h with
  | @unknownSymbol c more _ _ hblocked =>
    refine Or.inl ⟨c, more, rfl, ?_, rfl⟩
    rintro rfl
    exact hblocked .lineBreak ⟨_, _, Lexeme.lineFeed, ⟨more, rfl⟩⟩
  | unterminated _ _ => exact Or.inr ⟨_, rfl, by simp⟩
  | brokenAtLineFeed _ _ _ =>
    refine Or.inr ⟨_, rfl, ?_⟩
    rw [← List.cons_append, List.drop_left]
    simp
  | brokenAtReturn _ _ =>
    have hreturn : (Text.carriageReturn != Text.lineFeed) = true := rfl
    refine Or.inr ⟨_, rfl, ?_⟩
    rw [← List.cons_append, List.drop_left]
    simp [hreturn]

/-- At the end of its row, carriage returns aside, an index has in front of it all that is shown of
the row, and nothing else unless a carriage return stands just before it. -/
theorem Text.length_rowAt_of_rowBack {text : Text} {index : Nat}
    (hback : ∀ c ∈ text.rowBack index, (c == carriageReturn) = true) :
    (text.rowAt index).length ≤ (text.rowFront index).length ∧
      ((text.take index).getLast? ≠ some carriageReturn ∨ (text.rowFront index).length = 0 →
        (text.rowFront index).length = (text.rowAt index).length) := by
  rw [rowAt_eq, trimEnd_append hback]
  refine ⟨length_trimEnd_le _ _, fun hfront => congrArg List.length (trimEnd_eq_self ?_).symm⟩
  intro c hc
  have hsuffix : text.rowFront index <:+ text.take index := by
    rw [rowFront, ← List.reverse_prefix, List.reverse_reverse]
    exact List.takeWhile_prefix _
  rcases hfront with hlast | hempty
  · -- the last character of the row in front of the index is the one just before the index
    obtain ⟨front, hfront⟩ := hsuffix
    refine beq_false_of_ne ?_
    rintro rfl
    rw [← hfront, List.getLast?_append, hc] at hlast
    exact hlast rfl
  · rw [List.eq_nil_of_length_eq_zero hempty] at hc
    simp at hc

/-! ## The report -/

namespace Fault

/-- What lexing finds at fault has a message and a hint of one line each. -/
theorem exists_hint {fault : Fault} (h : (∃ c, c ≠ Text.lineFeed ∧ fault = .unknownSymbol [c]) ∨
    ∃ literal, fault = .literal literal) :
    Text.lineFeed ∉ fault.message ∧ ∃ hint, fault.hint? = some hint ∧ hint ≠ [] ∧
      Text.lineFeed ∉ hint := by
  rcases h with ⟨c, hc, rfl⟩ | ⟨literal, rfl⟩
  · have hmessage : (unknownSymbol [c]).message =
        "Unknown symbol ".toList ++ Text.inApostrophes [c] := rfl
    have hquote : Text.lineFeed ≠ Text.apostrophe := by decide
    have hquoted : Text.lineFeed ∉ Text.inApostrophes [c] := by
      simp [Text.inApostrophes, Ne.symm hc, hquote]
    refine ⟨?_, _, rfl, by decide, by decide⟩
    rw [hmessage]
    exact List.not_mem_append (by decide) hquoted
  · cases literal with
    | unterminated => exact ⟨by decide, _, rfl, by decide, by decide⟩
    | broken => exact ⟨by decide, _, rfl, by decide, by decide⟩

end Fault

/-- A report of a row and a hint has five lines, with the caret below the column. -/
theorem Diagnostic.splitOn_report {diagnostic : Diagnostic} {row hint : Text} {column : Nat}
    (hcolumn : diagnostic.position.col = column + 1) (hrow : diagnostic.sourceLine? = some row)
    (hhint : diagnostic.fault.hint? = some hint) (hne : hint ≠ [])
    (hfree : ∀ part ∈ [diagnostic.fault.message, row, hint], Text.lineFeed ∉ part) :
    diagnostic.report.splitOn Text.lineFeed =
      ["Lexer failed at ".toList ++ diagnostic.position.text, diagnostic.fault.message,
        List.replicate 4 Text.space ++ row, List.replicate (4 + column) Text.space ++ ['^'],
        "hint: ".toList ++ hint] := by
  obtain ⟨c, more, rfl⟩ := List.exists_cons_of_ne_nil hne
  have hcaret : (diagnostic.position.col + 3).toNat = 4 + column := by
    rw [hcolumn]
    omega
  have hreport : diagnostic.report = [Text.lineFeed].intercalate
      ["Lexer failed at ".toList ++ diagnostic.position.text, diagnostic.fault.message,
        List.replicate 4 Text.space ++ row, List.replicate (4 + column) Text.space ++ ['^'],
        "hint: ".toList ++ c :: more] := by
    rw [report, hrow, hhint]
    simp only [headline, pointer, advice, hcaret]
    rfl
  rw [hreport, List.splitOn_intercalate]
  · intro line hline
    have hspaces : ∀ count, Text.lineFeed ∉ List.replicate count Text.space := by
      intro count hmem
      exact absurd (List.eq_of_mem_replicate hmem) (by decide)
    simp only [List.mem_cons, List.not_mem_nil, or_false] at hline
    rcases hline with rfl | rfl | rfl | rfl | rfl
    · exact List.not_mem_append (by decide) diagnostic.position.allPrintable_text.lineFeed_not_mem
    · exact hfree _ (by simp)
    · exact List.not_mem_append (hspaces 4) (hfree _ (by simp))
    · exact List.not_mem_append (hspaces _) (by decide)
    · exact List.not_mem_append (by decide) (hfree _ (by simp))
  · simp

/-! ## Failures of lexing -/

namespace Dialect

variable {dialect : Dialect} {text : Text} {failure : Diagnostic}

/-- A failure has a place in the text: its position is the true one of the place, its row is the
one around it, and what stands there is the unknown symbol or the end of a row. -/
theorem exists_place (hletter : dialect.isLetter Text.lineFeed = false)
    (hfailure : (dialect.lex text).failure? = some failure) :
    ∃ index, failure.fault.PointsAt text (dialect.lexedLength text) index ∧
      failure.position = Position.ofIndex text index ∧
      failure.sourceLine? = some (text.rowAt index) ∧
      ((∃ c more, failure.fault = .unknownSymbol [c] ∧ c ≠ Text.lineFeed ∧
          text.drop index = c :: more) ∨
        ∃ fault, failure.fault = .literal fault ∧
          ∀ c ∈ text.rowBack index, (c == Text.carriageReturn) = true) := by
  obtain ⟨stop, hstop, rfl⟩ := lex_failure?_eq_some_iff.mp hfailure
  have hending := ending_of_stop hstop
  have hpoints := hending.pointsAt (Segment.characters (dialect.surface.cut text).segments)
  rw [characters_append_drop] at hpoints
  refine ⟨_, hpoints, ?_, rfl, ?_⟩
  · show (dialect.endPosition text).past stop.passed = _
    rw [endPosition_eq_ofIndex hletter, Position.past_ofIndex hending.passed_prefix]
    rfl
  · have hdrop : text.drop (dialect.lexedLength text + stop.passed.length) =
        (text.drop (dialect.lexedLength text)).drop stop.passed.length := by rw [List.drop_drop]
    show (∃ c more, stop.fault = _ ∧ _ ∧ text.drop (dialect.lexedLength text + _) = _) ∨
      ∃ fault, stop.fault = _ ∧ ∀ c ∈ (text.drop (dialect.lexedLength text + _)).takeWhile _, _
    rw [hdrop]
    exact hending.at_place

/-- **Diagnostics point at the right text.** If no letter is a line feed, a failure at a row and a
column shows the row with that number, without the carriage returns at its end. An unknown symbol
other than a carriage return stands in that row at that column. The place where a literal fails is
never in front of the end of the row, and it is the end of the row unless a carriage return stands
just before it. The report has five lines, with the caret below that column of the row. -/
theorem lex_failure_pointer (hletter : dialect.isLetter Text.lineFeed = false)
    (hfailure : (dialect.lex text).failure? = some failure) :
    ∃ (index number column : Nat) (row hint : Text),
      failure.fault.PointsAt text (dialect.lexedLength text) index ∧
      failure.position = ⟨number + 1, column + 1⟩ ∧
      failure.sourceLine? = some row ∧
      (text.splitOn Text.lineFeed)[number]?.map (Text.trimEnd (· == Text.carriageReturn)) =
        some row ∧
      Text.lineFeed ∉ row ∧
      (∀ symbol, failure.fault = .unknownSymbol symbol → symbol ≠ [Text.carriageReturn] →
        ∃ c, symbol = [c] ∧ row[column]? = some c) ∧
      (∀ fault, failure.fault = .literal fault → row.length ≤ column ∧
        ((text.take index).getLast? ≠ some Text.carriageReturn ∨ column = 0 →
          column = row.length)) ∧
      failure.fault.hint? = some hint ∧
      failure.report.splitOn Text.lineFeed =
        ["Lexer failed at ".toList ++ failure.position.text, failure.fault.message,
          List.replicate 4 Text.space ++ row, List.replicate (4 + column) Text.space ++ ['^'],
          "hint: ".toList ++ hint] := by
  obtain ⟨index, hpoints, hposition, hsource, hplace⟩ := exists_place hletter hfailure
  rw [Position.ofIndex_eq] at hposition
  have hnumber : (text.splitOn Text.lineFeed)[(text.take index).count Text.lineFeed]?.map
      (Text.trimEnd (· == Text.carriageReturn)) = some (text.rowAt index) := by
    rw [Text.getElem?_splitOn, Option.map_some, Text.rowAt_eq]
  have hfree : Text.lineFeed ∉ text.rowAt index := fun hmem =>
    text.lineFeed_not_mem_row index (Text.trimEnd_subset _ _ hmem)
  have hwords : (∃ c, c ≠ Text.lineFeed ∧ failure.fault = .unknownSymbol [c]) ∨
      ∃ fault, failure.fault = .literal fault := by
    rcases hplace with ⟨c, -, hfault, hc, -⟩ | ⟨fault, hfault, -⟩
    · exact Or.inl ⟨c, hc, hfault⟩
    · exact Or.inr ⟨fault, hfault⟩
  obtain ⟨hmessage, hint, hhint, hne, hhintFree⟩ := Fault.exists_hint hwords
  have hreport := Diagnostic.splitOn_report (congrArg Position.col hposition) hsource hhint hne
    (by simp [hmessage, hfree, hhintFree])
  refine ⟨index, _, _, _, hint, hpoints, hposition, hsource, hnumber, hfree, ?_, ?_, hhint,
    hreport⟩
  · intro symbol hsymbol hreturn
    rcases hplace with ⟨c, more, hfault, hc, hdrop⟩ | ⟨fault, hfault, -⟩
    · obtain rfl := Fault.unknownSymbol.inj (hfault.symm.trans hsymbol)
      -- the symbol is no carriage return, so it is not trimmed off the row
      have hback : text.rowBack index = c :: more.takeWhile (· != Text.lineFeed) := by
        rw [Text.rowBack, hdrop, List.takeWhile_cons_of_pos (by simpa using hc)]
      have hkept := @Text.trimEnd_append_cons (· == Text.carriageReturn) c
        (beq_false_of_ne fun h => hreturn (h ▸ rfl))
      refine ⟨c, rfl, ?_⟩
      rw [Text.rowAt_eq, hback, hkept, List.getElem?_append_right le_rfl,
        Nat.sub_self]
      rfl
    · simp [hfault] at hsymbol
  · intro fault hliteral
    rcases hplace with ⟨c, more, hfault, -, -⟩ | ⟨-, -, hback⟩
    · simp [hfault] at hliteral
    · exact Text.length_rowAt_of_rowBack hback

/-- A literal that is broken in its second row by a carriage return and a line feed, with another
carriage return in front of them: the caret stands two columns behind the text that is shown. -/
theorem lex_failure_pointer_returns :
    full.isLetter Text.lineFeed = false ∧
      (full.lex "x 'a\\\n b\r\r\n".toList).failure? =
        some ⟨.literal .broken, ⟨2, 4⟩, some " b".toList⟩ ∧
      (Diagnostic.report ⟨.literal .broken, ⟨2, 4⟩, some " b".toList⟩).splitOn Text.lineFeed =
        ["Lexer failed at 2:4".toList,
          "String is terminated by line-break instead of closing quote".toList, "     b".toList,
          "       ^".toList, "hint: close the string before the end of the line".toList] := by
  have hletter : full.isLetter Text.lineFeed = false := by decide +kernel
  have hfailure : (full.lex "x 'a\\\n b\r\r\n".toList).failure? =
      some ⟨.literal .broken, ⟨2, 4⟩, some " b".toList⟩ := by decide +kernel
  obtain ⟨index, number, column, row, hint, -, hposition, hrow, -, -, -, -, hhint, hreport⟩ :=
    lex_failure_pointer hletter hfailure
  obtain rfl : column = 3 := by
    have := congrArg Position.col hposition
    simp only at this
    omega
  obtain rfl := Option.some.inj hrow
  obtain rfl := Option.some.inj hhint
  exact ⟨hletter, hfailure, hreport.trans (by decide)⟩

end Dialect

end ScriptLexer
