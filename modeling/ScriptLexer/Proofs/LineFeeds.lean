import ScriptLexer.Proofs.Separator
import ScriptLexer.Proofs.SingleRow
import ScriptLexer.Proofs.UppercaseLetters

set_option autoImplicit false

/-! # Line feeds and rows

Rows are counted by tokens: a line break leads to the next row, and a string literal past all line
feeds of its lexeme. A line feed that belongs to neither is hidden from the count. A lexeme with a
line feed is a line break, a string literal or an identifier (`Lexeme.of_lineFeed_mem`), so what is
hidden are the line feeds in identifiers, and no text hides one exactly if no letter is a line feed
(`Dialect.lex_lineFeeds`). The check of an alphabet does not see to that: there is a dialect with
the line feed among its letters (`Dialect.not_forall_countsLineFeeds`). -/

namespace ScriptLexer

/-- The token is a string literal. -/
def Token.isString : Token → Bool
  | .string _ => true
  | _ => false

/-! ## Lexemes with line feeds -/

/-- Line feeds stand at the end of line breaks, in string literals and in identifiers only. -/
theorem Lexeme.of_lineFeed_mem {surface : Surface} {rule : Rule} {token : Token} {lexeme : Text}
    (h : Lexeme surface rule token lexeme) (hfeed : Text.lineFeed ∈ lexeme) :
    (token = .lineBreak ∧ ∃ front, lexeme = front ++ [Text.lineFeed] ∧ Text.lineFeed ∉ front) ∨
      (∃ value, token = .string value) ∨ ∃ name, token = .identifier name := by
  cases h with
  | identifier _ _ => exact Or.inr (Or.inr ⟨_, rfl⟩)
  | number hnumeral _ => exact absurd (hnumeral.mem hfeed) (by decide)
  | operator _ op => exact absurd hfeed (by cases op <;> decide)
  | string _ => exact Or.inr (Or.inl ⟨_, rfl⟩)
  | lineFeed => exact Or.inl ⟨rfl, [], rfl, by decide⟩
  | carriageReturn => exact Or.inl ⟨rfl, [Text.carriageReturn], rfl, by decide⟩

namespace Segment

variable {surface : Surface} {segment : Segment} {segments : List Segment}

/-! ## Segments -/

/-- The number of line feeds in the segment, if it is a token of the kind. -/
def lineFeedsIn (kind : Token → Bool) (segment : Segment) : Nat :=
  if segment.token?.any kind then segment.lexeme.count Text.lineFeed else 0

/-- A line feed at the index of the segment is counted as the end of a row: it belongs to a string
literal, or it is the last character of a line break. -/
def countsAt (index : Nat) (segment : Segment) : Bool :=
  decide (index < segment.lexeme.length) && (segment.token?.any Token.isString ||
    segment.token? == some .lineBreak && decide (index + 1 = segment.lexeme.length))

/-- The line feeds of a segment are counted as ends of rows, unless it is an identifier. -/
theorem Shaped.countsAt_eq (h : segment.Shaped surface) {index : Nat}
    (hfeed : segment.lexeme[index]? = some Text.lineFeed) :
    segment.countsAt index = !segment.isIdentifier := by
  obtain ⟨hindex, -⟩ := List.getElem?_eq_some_iff.mp hfeed
  have hmem := List.mem_of_getElem? hfeed
  cases h with
  | spaces _ => exact absurd (List.eq_of_mem_replicate hmem) (by decide)
  | lexeme hwritten =>
    rcases hwritten.of_lineFeed_mem hmem with ⟨rfl, front, rfl, hfree⟩ | ⟨value, rfl⟩ | ⟨name, rfl⟩
    · -- the line feed stands behind the front, as that has none
      have hlast : index = front.length := by
        rcases Nat.lt_or_ge index front.length with hlt | hge
        · rw [List.getElem?_append_left hlt] at hfeed
          exact absurd (List.mem_of_getElem? hfeed) hfree
        · rw [List.length_append] at hindex
          exact Nat.le_antisymm (Nat.lt_succ_iff.mp hindex) hge
      simp [countsAt, isIdentifier, Token.isIdentifier, hlast]
    · simp [countsAt, isIdentifier, Token.isString, Token.isIdentifier, hindex]
    · simp [countsAt, isIdentifier, Token.isString, Token.isIdentifier]

/-- The line feeds of a segment are the one of a line break, or those of a string literal or of an
identifier. -/
theorem Shaped.count_lineFeed (h : segment.Shaped surface) :
    segment.lexeme.count Text.lineFeed = (if segment.token? = some .lineBreak then 1 else 0) +
      segment.lineFeedsIn Token.isString + segment.lineFeedsIn Token.isIdentifier := by
  by_cases hfeed : Text.lineFeed ∈ segment.lexeme
  · cases h with
    | spaces _ => exact absurd (List.eq_of_mem_replicate hfeed) (by decide)
    | lexeme hwritten =>
      rcases hwritten.of_lineFeed_mem hfeed with
        ⟨rfl, front, rfl, hfree⟩ | ⟨value, rfl⟩ | ⟨name, rfl⟩
      · simp [lineFeedsIn, Token.isString, Token.isIdentifier, List.count_eq_zero.mpr hfree]
      · simp [lineFeedsIn, Token.isString, Token.isIdentifier]
      · simp [lineFeedsIn, Token.isString, Token.isIdentifier]
  · rw [if_neg (h.token?_ne_lineBreak hfeed)]
    simp [lineFeedsIn, List.count_eq_zero.mpr hfeed]

/-- A position moves down over line breaks and over the line feeds in string literals. -/
theorem row_advance (segment : Segment) (p : Position) :
    (segment.advance p).row = p.row + ((if segment.token? = some .lineBreak then 1 else 0) +
      segment.lineFeedsIn Token.isString : Nat) := by
  cases htoken : segment.token? with
  | none => simp [advance, lineFeedsIn, htoken, Position.right]
  | some token =>
    cases token with
    | lineBreak => simp [advance, lineFeedsIn, htoken, Token.isString, Position.down]
    | string _ => simp [advance, lineFeedsIn, htoken, Token.isString, Position.row_past]
    | _ => simp [advance, lineFeedsIn, htoken, Token.isString, Position.right]

/-! ## Runs of segments -/

/-- The number of line breaks among segments. -/
def lineBreaks (segments : List Segment) : Nat := segments.countP (·.token? == some .lineBreak)

theorem lineBreaks_cons (segment : Segment) (segments : List Segment) :
    lineBreaks (segment :: segments) =
      lineBreaks segments + if segment.token? = some .lineBreak then 1 else 0 := by
  simp [lineBreaks, List.countP_cons]

/-- All line feeds of segments are accounted for. -/
theorem count_lineFeed_characters (hshaped : ∀ segment ∈ segments, segment.Shaped surface) :
    (characters segments).count Text.lineFeed = lineBreaks segments +
      (segments.map (lineFeedsIn Token.isString)).sum +
      (segments.map (lineFeedsIn Token.isIdentifier)).sum := by
  induction segments with
  | nil => rfl
  | cons segment segments ih =>
    rw [characters_cons, List.count_append, (hshaped segment List.mem_cons_self).count_lineFeed,
      ih fun s hs => hshaped s (List.mem_cons_of_mem segment hs), lineBreaks_cons]
    simp only [List.map_cons, List.sum_cons]
    omega

/-- The run over segments: it ends as many rows down as the tokens count. -/
theorem row_advanceAll (segments : List Segment) (p : Position) :
    (advanceAll p segments).row =
      p.row + (lineBreaks segments + (segments.map (lineFeedsIn Token.isString)).sum : Nat) := by
  induction segments generalizing p with
  | nil => exact (Int.add_zero _).symm
  | cons segment segments ih =>
    show (advanceAll (segment.advance p) segments).row = _
    rw [ih, row_advance, lineBreaks_cons, List.map_cons, List.sum_cons]
    push_cast
    omega

end Segment

/-! ## Occurrences -/

namespace Occurrence

/-- A line feed at the index is counted as the end of a row: it belongs to a string literal, or it
is the last character of a line break. -/
def countsAt (index : Nat) (occurrence : Occurrence) : Bool :=
  decide (occurrence.start ≤ index) && decide (index < occurrence.stop) &&
    (occurrence.token.isString ||
      occurrence.token == .lineBreak && decide (index + 1 = occurrence.stop))

theorem start_le_of_countsAt {o : Occurrence} {index : Nat} (h : o.countsAt index = true) :
    o.start ≤ index := by
  simp only [countsAt, Bool.and_eq_true, decide_eq_true_eq] at h
  exact h.1.1

/-- The number of line feeds in the lexemes of the tokens of a kind. -/
def lineFeedsIn (kind : Token → Bool) (occurrences : List Occurrence) : Nat :=
  ((occurrences.filter (kind ·.token)).map (·.lexeme.count Text.lineFeed)).sum

end Occurrence

namespace Segment

variable {surface : Surface} {segments : List Segment}

theorem countP_locate (p : Position) (segments : List Segment) :
    (locate p segments).countP (·.token == .lineBreak) = lineBreaks segments := by
  induction segments generalizing p with
  | nil => rfl
  | cons segment segments ih =>
    cases htoken : segment.token? with
    | none => simp [locate, lineBreaks_cons, htoken, ih]
    | some token => simp [locate, lineBreaks_cons, htoken, ih, List.countP_cons]

theorem lineFeedsIn_occurrences (kind : Token → Bool) (p : Position) (start : Nat)
    (segments : List Segment) :
    Occurrence.lineFeedsIn kind (occurrences p start segments) =
      (segments.map (lineFeedsIn kind)).sum := by
  induction segments generalizing p start with
  | nil => rfl
  | cons segment segments ih =>
    have hrest := ih (segment.advance p) (start + segment.lexeme.length)
    rw [List.map_cons, List.sum_cons, ← hrest]
    cases htoken : segment.token? with
    | none => simp [occurrences, lineFeedsIn, htoken]
    | some token =>
      cases hkind : kind token with
      | false => simp [occurrences, lineFeedsIn, Occurrence.lineFeedsIn, htoken, hkind]
      | true => simp [occurrences, lineFeedsIn, Occurrence.lineFeedsIn, htoken, hkind]

/-- A line feed is counted in the first segment, or in one that follows. -/
theorem any_countsAt_cons (p : Position) (start index : Nat) (segment : Segment)
    (segments : List Segment) :
    (occurrences p start (segment :: segments)).any (·.countsAt (start + index)) =
      (segment.countsAt index ||
        (occurrences (segment.advance p) (start + segment.lexeme.length) segments).any
          (·.countsAt (start + index))) := by
  cases h : segment.token? with
  | none => simp [occurrences, countsAt, h]
  | some token =>
    simp [occurrences, countsAt, h, Occurrence.countsAt, Occurrence.stop, Nat.add_assoc]

/-- The run over the occurrences: a line feed is counted as the end of a row exactly if it belongs
to no identifier. -/
theorem any_countsAt_eq (hshaped : ∀ segment ∈ segments, segment.Shaped surface) {index : Nat}
    (hfeed : (characters segments)[index]? = some Text.lineFeed) (p : Position) (start : Nat) :
    (occurrences p start segments).any (·.countsAt (start + index)) =
      !(occurrences p start segments).any (·.isNameAt (start + index)) := by
  induction segments generalizing p start index with
  | nil => simp [characters] at hfeed
  | cons segment segments ih =>
    rw [characters_cons] at hfeed
    rw [any_countsAt_cons, any_isNameAt_cons]
    rcases Nat.lt_or_ge index segment.lexeme.length with hlt | hge
    · -- the occurrences that follow start behind the line feed
      have hstart : start + index < start + segment.lexeme.length := Nat.add_lt_add_left hlt start
      have hcounts : (occurrences (segment.advance p) (start + segment.lexeme.length) segments).any
          (·.countsAt (start + index)) = false :=
        any_occurrences_eq_false (fun _ => Occurrence.start_le_of_countsAt) hstart _ segments
      have hname : (occurrences (segment.advance p) (start + segment.lexeme.length) segments).any
          (·.isNameAt (start + index)) = false :=
        any_occurrences_eq_false (fun _ => Occurrence.start_le_of_isNameAt) hstart _ segments
      rw [List.getElem?_append_left hlt] at hfeed
      rw [hcounts, hname, (hshaped segment List.mem_cons_self).countsAt_eq hfeed]
      simp [hlt]
    · rw [List.getElem?_append_right hge] at hfeed
      have hrest := ih (fun s hs => hshaped s (List.mem_cons_of_mem segment hs)) hfeed
        (segment.advance p) (start + segment.lexeme.length)
      have hshift : start + segment.lexeme.length + (index - segment.lexeme.length) =
          start + index := by omega
      rw [hshift] at hrest
      simp [hrest, countsAt, Nat.not_lt_of_ge hge]

end Segment

/-! ## Lexing -/

namespace Dialect

variable {dialect : Dialect} {text : Text}

/-- The number of rows that the tokens of a text lead down: one for each line break, and one for
each line feed in the lexeme of a string literal. -/
def rows (dialect : Dialect) (text : Text) : Nat :=
  (dialect.lex text).tokens.countP (·.token == .lineBreak) +
    Occurrence.lineFeedsIn Token.isString (dialect.occurrences text)

/-- No line feed of the text is hidden from the count of rows: each one up to the end, or to the
construct at fault, is the last character of a line break or belongs to a string literal. So there
are as many rows to be led down as the text has line feeds, if there is no failure. -/
structure CountsLineFeeds (dialect : Dialect) (text : Text) : Prop where
  counted : ∀ index < dialect.lexedLength text, text[index]? = some Text.lineFeed →
    ∃ o ∈ dialect.occurrences text, o.countsAt index = true
  rows_eq : (dialect.lex text).ok = true → dialect.rows text = text.count Text.lineFeed

theorem rows_eq_segments (dialect : Dialect) (text : Text) :
    dialect.rows text = Segment.lineBreaks (dialect.surface.cut text).segments +
      ((dialect.surface.cut text).segments.map (Segment.lineFeedsIn Token.isString)).sum :=
  congrArg₂ (· + ·) (Segment.countP_locate _ _) (Segment.lineFeedsIn_occurrences _ _ _ _)

/-- A line feed is counted as the end of a row exactly if it belongs to no identifier. -/
theorem exists_countsAt_iff {index : Nat} (hindex : index < dialect.lexedLength text)
    (hfeed : text[index]? = some Text.lineFeed) :
    (∃ o ∈ dialect.occurrences text, o.countsAt index = true) ↔
      ∀ o ∈ dialect.occurrences text, o.isNameAt index = false := by
  have hshaped := (segmentation_cut dialect.surface text).shaped
  have hchar : (Segment.characters (dialect.surface.cut text).segments)[index]? =
      some Text.lineFeed := by
    rw [← take_lexedLength, List.getElem?_take_of_lt hindex, hfeed]
  have hany := Segment.any_countsAt_eq hshaped hchar Position.start 0
  rw [Nat.zero_add] at hany
  rw [← List.any_eq_true]
  show (Segment.occurrences Position.start 0 _).any _ = true ↔ _
  rw [hany, Bool.not_eq_true', List.any_eq_false]
  simp only [Bool.not_eq_true]
  rfl

theorem rows_add_lineFeedsIn (dialect : Dialect) (text : Text) :
    dialect.rows text +
        Occurrence.lineFeedsIn Token.isIdentifier (dialect.occurrences text) =
      (text.take (dialect.lexedLength text)).count Text.lineFeed := by
  have hshaped := (segmentation_cut dialect.surface text).shaped
  rw [take_lexedLength, Segment.count_lineFeed_characters hshaped, rows_eq_segments]
  exact congrArg _ (Segment.lineFeedsIn_occurrences _ _ _ _)

theorem row_endPosition (dialect : Dialect) (text : Text) :
    (dialect.endPosition text).row = 1 + (dialect.rows text : Nat) := by
  rw [rows_eq_segments]
  exact Segment.row_advanceAll _ Position.start

/-- A name with a line feed hides it. -/
theorem not_countsLineFeeds (hspace : text.head? ≠ some Text.space)
    (hletters : ∀ c ∈ text, dialect.isLetter c = true) (hfeed : Text.lineFeed ∈ text) :
    ¬dialect.CountsLineFeeds text := by
  intro h
  have hlex := (lex_eq_identifier_iff (List.ne_nil_of_mem hfeed) hspace).mpr hletters
  have hok : (dialect.lex text).ok = true := by
    rw [hlex]
    rfl
  have htokens := dialect.lex_tokens text
  rw [hlex] at htokens
  obtain ⟨o, hoccurrences, htoken⟩ := List.map_eq_singleton_iff.mp htokens.symm
  have hrows : dialect.rows text = 0 := by
    have hkind : o.token = .identifier text := congrArg (·.token) htoken
    rw [rows, hlex, hoccurrences]
    simp [Occurrence.lineFeedsIn, Token.isString, hkind]
  exact (List.count_pos_iff.mpr hfeed).ne' ((h.rows_eq hok).symm.trans hrows)

/-- Without a line feed among the letters, no text hides one. -/
theorem countsLineFeeds (hletter : dialect.isLetter Text.lineFeed = false) (text : Text) :
    dialect.CountsLineFeeds text where
  counted index hindex hfeed := by
    -- all line feeds end rows, so none belongs to an identifier
    have hends := congrArg (·[index]?) (rowEnds_eq_map hletter text)
    simp only [rowEnds, List.getElem?_mapIdx, List.getElem?_map, hfeed, Option.map_some,
      beq_self_eq_true, Bool.true_and, Option.some.injEq, Bool.not_eq_true'] at hends
    refine (exists_countsAt_iff hindex hfeed).mpr fun o ho => ?_
    simpa using List.any_eq_false.mp hends o ho
  rows_eq hok := by
    have hrow := congrArg (·.row) (endPosition_eq_ofIndex hletter text)
    rw [lexedLength_of_ok hok, Position.ofIndex, List.take_length] at hrow
    have hend := dialect.row_endPosition text
    simp only [hend] at hrow
    omega

/-- **Line feeds and the count of rows.** In every text, a line feed is counted as the end of a row
exactly if it belongs to no identifier; the line feeds up to the end, or to the construct at fault,
are the rows that the tokens lead down and the line feeds in identifiers; and lexing comes to its
end as many rows down. No text hides a line feed exactly if the line feed is no letter, as in the
dialects that have names. -/
theorem lex_lineFeeds (dialect : Dialect) :
    (∀ text, (∀ index < dialect.lexedLength text, text[index]? = some Text.lineFeed →
        ((∃ o ∈ dialect.occurrences text, o.countsAt index = true) ↔
          ∀ o ∈ dialect.occurrences text, o.isNameAt index = false)) ∧
      dialect.rows text + Occurrence.lineFeedsIn Token.isIdentifier (dialect.occurrences text) =
        (text.take (dialect.lexedLength text)).count Text.lineFeed ∧
      (dialect.endPosition text).row = 1 + (dialect.rows text : Nat)) ∧
    ((∀ text, dialect.CountsLineFeeds text) ↔ dialect.isLetter Text.lineFeed = false) ∧
    ∀ entry ∈ Dialect.names, ∀ text, entry.2.CountsLineFeeds text := by
  refine ⟨fun text => ⟨fun index hindex hfeed => exists_countsAt_iff hindex hfeed,
    dialect.rows_add_lineFeedsIn text, dialect.row_endPosition text⟩, ⟨fun hall => ?_, ?_⟩, ?_⟩
  · by_contra hletter
    rw [Bool.not_eq_false] at hletter
    exact not_countsLineFeeds (by decide)
      (List.forall_mem_singleton.mpr hletter) List.mem_cons_self (hall [Text.lineFeed])
  · exact countsLineFeeds
  · intro entry hentry
    exact countsLineFeeds (isLetter_of_mem_names entry hentry Text.lineFeed (by decide))

/-- An accepted alphabet can have the line feed among its letters. The text is one identifier then,
and its line feed is hidden. -/
theorem not_forall_countsLineFeeds :
    ¬∀ (alphabet : Text) (caseInsensitive operators : Bool) (dialect : Dialect),
      make alphabet caseInsensitive operators = .ok dialect →
        ∀ text, dialect.CountsLineFeeds text := by
  intro h
  obtain ⟨dialect, hmake⟩ := (@exists_make_iff "a-z\n".toList false true).mpr (by decide)
  have hall : ("a\nb".toList.all fun c =>
      (ClassItem.ofText (letterClass "a-z\n".toList false)).any (·.covers c)) = true := by decide
  have hletters : ∀ c ∈ "a\nb".toList, dialect.isLetter c = true := by
    intro c hc
    rw [isLetter_of_make hmake]
    exact List.all_eq_true.mp hall c hc
  exact not_countsLineFeeds (by decide) hletters (by decide) (h _ _ _ dialect hmake "a\nb".toList)

end Dialect

end ScriptLexer
