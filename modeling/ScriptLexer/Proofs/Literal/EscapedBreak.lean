import ScriptLexer.Proofs.Literal.OnePass
import ScriptLexer.Proofs.Returns

set_option autoImplicit false

/-! # Escaped line breaks with carriage returns

A backslash in front of a line feed lets a literal go on in the next row. In front of a carriage
return and a line feed it does not: the backslash takes the carriage return, and the line feed is
bare. So a literal that goes on over several rows is broken at the end of its first row as soon as
its line feeds get carriage returns, and what is pointed out is the carriage return behind the
backslash (`Rule.scanAt_string_withReturns`). -/

namespace ScriptLexer

namespace Text

theorem takeWhile_append_lineFeed {row : Text} (hrow : lineFeed ∉ row) (rest : Text) :
    (row ++ lineFeed :: rest).takeWhile (· != lineFeed) = row := by
  rw [takeWhile_append_of_not_mem hrow, List.takeWhile_cons_of_neg (by decide), List.append_nil]

theorem withReturns_append_lineFeed {row : Text} (hrow : lineFeed ∉ row) (rest : Text) :
    (row ++ lineFeed :: rest).withReturns =
      row ++ carriageReturn :: lineFeed :: rest.withReturns := by
  rw [withReturns_append, withReturns_eq_self hrow, withReturns_lineFeed]

end Text

namespace Literal

/-- In the body of a literal, the first line feed stands behind a backslash and ends a pair. -/
theorem Body.exists_first_lineFeed {body : Text} (hbody : Body body)
    (hfeed : Text.lineFeed ∈ body) :
    ∃ row more, body = row ++ Text.backslash :: Text.lineFeed :: more ∧ Body row ∧
      Text.lineFeed ∉ row := by
  induction hbody with
  | nil => simp at hfeed
  | @plain c body hc _ ih =>
    have hne : Text.lineFeed ≠ c := by
      rintro rfl
      exact absurd hc (by decide)
    obtain ⟨row, more, rfl, hrow, hfree⟩ := ih (List.mem_of_ne_of_mem hne hfeed)
    exact ⟨c :: row, more, rfl, hrow.plain hc, List.not_mem_cons_of_ne_of_not_mem hne hfree⟩
  | @escape body c _ ih =>
    have hmem := List.mem_of_ne_of_mem (by decide) hfeed
    by_cases hc : Text.lineFeed = c
    · exact ⟨[], body, by rw [hc]; rfl, Body.nil, by simp⟩
    · obtain ⟨row, more, rfl, hrow, hfree⟩ := ih (List.mem_of_ne_of_mem hc hmem)
      exact ⟨Text.backslash :: c :: row, more, rfl, hrow.escape c,
        List.not_mem_cons_of_ne_of_not_mem (by decide)
          (List.not_mem_cons_of_ne_of_not_mem hc hfree)⟩

/-- A row of a literal that ends with a backslash, a carriage return and a line feed is broken
behind the backslash. -/
theorem read_row_withReturn {row : Text} (hrow : Body row) (after : Text) :
    read (row ++ [Text.backslash] ++ Text.carriageReturn :: Text.lineFeed :: after) =
      .faulty .broken (row ++ [Text.backslash]) := by
  have hbody : Body (row ++ [Text.backslash] ++ [Text.carriageReturn]) := by
    rw [List.append_assoc]
    exact hrow.append (Body.nil.escape Text.carriageReturn)
  rw [List.append_cons, read_body_lineFeed hbody after, beforeBreak,
    if_pos List.getLast?_concat, List.dropLast_concat]

end Literal

namespace Rule

variable {surface : Surface} {token : Token} {text lexeme : Text} {index : Nat}

/-- **No literal goes on behind a carriage return and a line feed.** If a literal with a line feed
in it stands at an index of a text, and all its line feeds get a carriage return, then no literal
stands there any more. It is broken by its first line break, pointed out at the carriage return,
which has a backslash in front of it. -/
theorem scanAt_string_withReturns
    (h : Rule.string.scanAt surface text index = .ok (some (.token token lexeme)))
    (hfeed : Text.lineFeed ∈ lexeme) :
    Rule.string.scanAt surface
        (text.take index ++ lexeme.withReturns ++ text.drop (index + lexeme.length)) index =
      .ok (some (.faulty .broken (lexeme.takeWhile (· != Text.lineFeed)))) ∧
    (lexeme.takeWhile (· != Text.lineFeed)).getLast? = some Text.backslash := by
  have hlength : (text.take index).length = index :=
    List.length_take_of_le (lt_length_of_scanAt_string h).le
  obtain ⟨hwritten, -⟩ := scanAt_string_eq_token_iff.mp h
  cases hwritten with
  | @string body hbody =>
    have hquote : Text.lineFeed ≠ Text.apostrophe := by decide
    have hmem : Text.lineFeed ∈ body := by simpa [hquote] using hfeed
    obtain ⟨row, more, rfl, hrow, hfree⟩ := hbody.exists_first_lineFeed hmem
    generalize text.drop _ = after
    -- the literal is its first row, a line feed and the rest
    have hsplit : Text.apostrophe :: (row ++ Text.backslash :: Text.lineFeed :: more ++
        [Text.apostrophe]) = (Text.apostrophe :: (row ++ [Text.backslash])) ++
          Text.lineFeed :: (more ++ [Text.apostrophe]) := by simp
    have hbackslash : Text.lineFeed ≠ Text.backslash := by decide
    have hfirst : Text.lineFeed ∉ Text.apostrophe :: (row ++ [Text.backslash]) := by
      simp [hquote, hbackslash, hfree]
    rw [hsplit, Text.takeWhile_append_lineFeed hfirst, Text.withReturns_append_lineFeed hfirst]
    refine ⟨?_, by rw [← List.cons_append, List.getLast?_concat]⟩
    rw [List.append_assoc, scanAt_of_lt (by simp [hlength]), List.drop_left' hlength, scan,
      List.append_assoc, List.cons_append, scanString_apostrophe, List.cons_append,
      List.cons_append, Literal.read_row_withReturn hrow]

/-- A literal in two rows, and the same literal with a carriage return in front of its line feed. -/
theorem scanAt_string_withReturns_two_rows :
    Rule.string.scanAt Dialect.full.surface "x 'a\\\nb'".toList 2 =
        .ok (some (.token (.string "'a\\\nb'".toList) "'a\\\nb'".toList)) ∧
      Text.lineFeed ∈ "'a\\\nb'".toList ∧
      Rule.string.scanAt Dialect.full.surface "x 'a\\\r\nb'".toList 2 =
        .ok (some (.faulty .broken "'a\\".toList)) := by
  have hscan : Rule.string.scanAt Dialect.full.surface "x 'a\\\nb'".toList 2 =
      .ok (some (.token (.string "'a\\\nb'".toList) "'a\\\nb'".toList)) := by decide +kernel
  have hfeed : Text.lineFeed ∈ "'a\\\nb'".toList := by decide
  exact ⟨hscan, hfeed, (scanAt_string_withReturns hscan hfeed).1⟩

/-- A backslash does not let a literal go on in the next row for both spellings of a line break. -/
theorem not_forall_scanAt_string_withReturns :
    ¬∀ (text : Text) (index : Nat) (token : Token) (lexeme : Text),
      Text.carriageReturn ∉ text →
      Rule.string.scanAt Dialect.full.surface text index = .ok (some (.token token lexeme)) →
      Text.lineFeed ∈ lexeme →
      ∃ token', Rule.string.scanAt Dialect.full.surface
          (text.take index ++ lexeme.withReturns ++ text.drop (index + lexeme.length)) index =
        .ok (some (.token token' lexeme.withReturns)) := by
  intro h
  have hscan : Rule.string.scanAt Dialect.full.surface "'a\\\nb'".toList 0 =
      .ok (some (.token (.string "'a\\\nb'".toList) "'a\\\nb'".toList)) := by decide +kernel
  have hbroken : Rule.string.scanAt Dialect.full.surface "'a\\\r\nb'".toList 0 =
      .ok (some (.faulty .broken "'a\\".toList)) := by decide +kernel
  obtain ⟨token', htoken⟩ := h _ _ _ _ (by decide) hscan (by decide)
  have hsame := hbroken.symm.trans htoken
  simp at hsame

end Rule

end ScriptLexer
