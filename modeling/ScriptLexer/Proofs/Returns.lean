import ScriptLexer.Proofs.Separator
import ScriptLexer.Proofs.Text.RowAround

set_option autoImplicit false

/-! # Line breaks with carriage returns

A row may end with a line feed alone or with a carriage return in front of it. The file compares a
text of the first kind with the text in which every line feed has got a carriage return
(`Text.withReturns`). If neither character is a letter and no line feed is escaped, the two texts
have the same segments, where only those of line breaks are longer
(`Segmentation.withReturns`). Indices drift apart from row to row, but no position does, since a
line break leads to the next row however it is written, and the row that is shown has no
carriage return at its end. So lexing gives the same for both (`Dialect.lex_withReturns`). -/

namespace ScriptLexer

/-! ## Texts in which line feeds get carriage returns -/

namespace Text

/-- The text with a carriage return in front of every line feed. -/
def withReturns (text : Text) : Text :=
  text.flatMap fun c => if c = lineFeed then [carriageReturn, lineFeed] else [c]

/-- Every row ends with a line feed alone, and with no backslash in front of it. -/
structure HasBareBreaks (text : Text) : Prop where
  carriageReturn_not_mem : carriageReturn ∉ text
  not_escaped : ¬[backslash, lineFeed] <:+: text

theorem HasBareBreaks.left {a b : Text} (h : HasBareBreaks (a ++ b)) : HasBareBreaks a :=
  ⟨fun hmem => h.carriageReturn_not_mem (List.mem_append_left b hmem),
    fun hpart => h.not_escaped (hpart.trans (List.prefix_append a b).isInfix)⟩

theorem HasBareBreaks.right {a b : Text} (h : HasBareBreaks (a ++ b)) : HasBareBreaks b :=
  ⟨fun hmem => h.carriageReturn_not_mem (List.mem_append_right a hmem),
    fun hpart => h.not_escaped (hpart.trans (List.suffix_append a b).isInfix)⟩

theorem withReturns_append (a b : Text) :
    (a ++ b).withReturns = a.withReturns ++ b.withReturns := List.flatMap_append

theorem withReturns_lineFeed (rest : Text) :
    withReturns (lineFeed :: rest) = carriageReturn :: lineFeed :: rest.withReturns := rfl

theorem withReturns_cons {c : Char} (hc : c ≠ lineFeed) (rest : Text) :
    withReturns (c :: rest) = c :: rest.withReturns := by
  rw [withReturns, List.flatMap_cons, if_neg hc]
  rfl

/-- A text without line feeds stays as it is. -/
theorem withReturns_eq_self {text : Text} (h : lineFeed ∉ text) : text.withReturns = text := by
  induction text with
  | nil => rfl
  | cons c text ih =>
    rw [withReturns_cons (fun hc => h (by simp [hc])), ih (fun hmem => h (by simp [hmem]))]

theorem length_le_withReturns (text : Text) : text.length ≤ text.withReturns.length := by
  induction text with
  | nil => exact le_rfl
  | cons c text ih =>
    by_cases hc : c = lineFeed
    · rw [hc, withReturns_lineFeed]
      simp only [List.length_cons]
      omega
    · rw [withReturns_cons hc]
      simpa using ih

/-- A beginning without carriage returns is one of the text as it was. -/
theorem front_of_withReturns {found text : Text} (hfree : carriageReturn ∉ found)
    (hfront : found <+: text.withReturns) : found <+: text := by
  induction text generalizing found with
  | nil => exact hfront
  | cons c text ih =>
    cases found with
    | nil => exact List.nil_prefix
    | cons d found =>
      by_cases hc : c = lineFeed
      · -- the text would start with a carriage return
        rw [hc, withReturns_lineFeed] at hfront
        exact absurd (by simp [(List.cons_prefix_cons.mp hfront).1]) hfree
      · rw [withReturns_cons hc, List.cons_prefix_cons] at hfront
        exact List.cons_prefix_cons.mpr
          ⟨hfront.1, ih (fun hmem => hfree (by simp [hmem])) hfront.2⟩

theorem head?_withReturns_ne_space {text : Text} (h : text.head? ≠ some space) :
    text.withReturns.head? ≠ some space := by
  cases text with
  | nil => exact h
  | cons c text =>
    by_cases hc : c = lineFeed
    · rw [hc, withReturns_lineFeed]
      exact fun hspace => absurd (Option.some.inj hspace) (by decide)
    · rw [withReturns_cons hc]
      exact h

/-! ### The row that is shown -/

/-- The row ends in front of an index: characters back to the last line feed. -/
theorem takeWhile_reverse_withReturns (text : Text) :
    text.withReturns.reverse.takeWhile (· != lineFeed) =
      text.reverse.takeWhile (· != lineFeed) := by
  induction text using List.reverseRecOn with
  | nil => rfl
  | append_singleton text c ih =>
    by_cases hc : c = lineFeed
    · subst hc
      have hbreak : withReturns [lineFeed] = [carriageReturn, lineFeed] := rfl
      simp [withReturns_append, hbreak]
    · have hself : withReturns [c] = [c] := withReturns_cons hc []
      simp [withReturns_append, hself, hc, ih]

/-- From an index on, the row may have one more carriage return at its end. -/
theorem takeWhile_withReturns (text : Text) :
    text.withReturns.takeWhile (· != lineFeed) = text.takeWhile (· != lineFeed) ++
      if lineFeed ∈ text then [carriageReturn] else [] := by
  induction text with
  | nil => rfl
  | cons c text ih =>
    by_cases hc : c = lineFeed
    · subst hc
      have hreturn : (carriageReturn != lineFeed) = true := rfl
      simp [withReturns_lineFeed, hreturn]
    · simp [withReturns_cons hc, hc, Ne.symm hc, ih]

/-- The row around a place is shown the same. -/
theorem rowAt_withReturns (front rest : Text) :
    (front ++ rest).withReturns.rowAt front.withReturns.length =
      (front ++ rest).rowAt front.length := by
  rw [withReturns_append, rowAt, rowAt, List.take_left, List.drop_left, List.take_left,
    List.drop_left, takeWhile_reverse_withReturns, takeWhile_withReturns]
  split
  · rw [← List.append_assoc, trimEnd_append (by simp)]
  · rw [List.append_nil]

end Text

/-- Behind its first character, a text has bare breaks too. -/
theorem Text.HasBareBreaks.tail {c : Char} {text : Text}
    (h : Text.HasBareBreaks (c :: text)) : text.HasBareBreaks :=
  @Text.HasBareBreaks.right [c] text h

/-! ## Lexemes and endings -/

variable {surface : Surface} {rule : Rule} {token : Token} {text lexeme : Text}

/-- In the body of a literal, a line feed is escaped. -/
theorem Literal.Body.lineFeed_not_mem {body : Text} (hbody : Literal.Body body)
    (h : ¬[Text.backslash, Text.lineFeed] <:+: body) : Text.lineFeed ∉ body := by
  intro hmem
  apply h
  clear h
  induction hbody with
  | nil => simp at hmem
  | plain hc _ ih =>
    rcases List.mem_cons.mp hmem with rfl | hmem
    · exact absurd hc (by decide)
    · exact (ih hmem).trans (List.suffix_cons _ _).isInfix
  | @escape body c _ ih =>
    rcases List.mem_cons.mp hmem with hfeed | hmem
    · exact absurd hfeed (by decide)
    rcases List.mem_cons.mp hmem with rfl | hmem
    · exact ⟨[], body, rfl⟩
    · exact (ih hmem).trans (List.suffix_append [Text.backslash, c] body).isInfix

theorem Literal.Unclosed.lineFeed_not_mem {rest : Text} (hrest : Literal.Unclosed rest)
    (h : ¬[Text.backslash, Text.lineFeed] <:+: rest) : Text.lineFeed ∉ rest := by
  obtain ⟨body, hbody, rfl | rfl⟩ := hrest
  · exact hbody.lineFeed_not_mem h
  · have hfree := hbody.lineFeed_not_mem fun hpart =>
      h (hpart.trans (List.prefix_append body _).isInfix)
    rw [List.mem_append, not_or]
    exact ⟨hfree, by decide⟩

section

variable (hreturn : surface.isLetter Text.carriageReturn = false)
  (hfeed : surface.isLetter Text.lineFeed = false)

include hfeed in
/-- Only line breaks get longer. -/
theorem Lexeme.withReturns_eq_self (h : Lexeme surface rule token lexeme)
    (hbare : lexeme.HasBareBreaks) (hrule : rule ≠ .lineBreak) : lexeme.withReturns = lexeme := by
  apply Text.withReturns_eq_self
  by_cases hrank : rule.rank < Rule.string.rank
  · exact h.not_mem hrank (Text.mem_separators.mpr (Or.inr (Or.inr rfl))) hfeed
  · cases h with
    | identifier _ _ => exact absurd (by decide) hrank
    | number _ _ => exact absurd (by decide) hrank
    | operator _ _ => exact absurd (by decide) hrank
    | @string body hbody =>
      have hfree := hbody.lineFeed_not_mem hbare.tail.left.not_escaped
      rw [List.mem_cons, List.mem_append, not_or, not_or]
      exact ⟨by decide, hfree, by decide⟩
    | lineFeed => exact absurd rfl hrule
    | carriageReturn => exact absurd rfl hrule

include hfeed in
theorem Lexeme.withReturns (h : Lexeme surface rule token lexeme) (hbare : lexeme.HasBareBreaks) :
    Lexeme surface rule token lexeme.withReturns := by
  by_cases hrule : rule = .lineBreak
  · subst hrule
    cases h with
    | lineFeed => exact Lexeme.carriageReturn
    | carriageReturn => exact absurd (by simp) hbare.carriageReturn_not_mem
  · rwa [h.withReturns_eq_self hfeed hbare hrule]

include hreturn

/-- The rules before the one for string literals find nothing new. -/
theorem Lexeme.front_of_withReturns (h : Lexeme surface rule token lexeme)
    (hrank : rule.rank < Rule.string.rank) (hfront : lexeme <+: text.withReturns) :
    lexeme <+: text :=
  Text.front_of_withReturns
    (h.not_mem hrank (Text.mem_separators.mpr (Or.inr (Or.inl rfl))) hreturn) hfront

theorem Rule.Applies.of_withReturns (h : rule.Applies surface text.withReturns)
    (hrank : rule.rank < Rule.string.rank) : rule.Applies surface text := by
  obtain ⟨token, lexeme, hwritten, hfront⟩ := h
  exact ⟨token, lexeme, hwritten, hwritten.front_of_withReturns hreturn hrank hfront⟩

include hfeed in
theorem Munch.withReturns {rest : Text} (h : Munch surface rule (lexeme ++ rest) token lexeme)
    (hbare : lexeme.HasBareBreaks) :
    Munch surface rule (lexeme.withReturns ++ rest.withReturns) token lexeme.withReturns := by
  refine h.transfer (h.written.withReturns hfeed hbare) (List.prefix_append _ _)
    lexeme.length_le_withReturns ?_
  intro early token' found hrank hfound hfront
  rw [← Text.withReturns_append] at hfront
  exact hfound.front_of_withReturns hreturn hrank hfront

omit hreturn in
/-- What is passed in front of the place to point at is in one row. -/
theorem Ending.lineFeed_not_mem_passed {stop : Stop} (h : Ending surface text (some stop))
    (hbare : text.HasBareBreaks) : Text.lineFeed ∉ stop.passed := by
  have hquoted : ∀ body : Text, Text.lineFeed ∉ body →
      Text.lineFeed ∉ Text.apostrophe :: body := by
    intro body hfree hmem
    rcases List.mem_cons.mp hmem with hquote | hmem
    · exact absurd hquote (by decide)
    · exact hfree hmem
  cases h with
  | unknownSymbol _ _ _ => simp
  | unterminated _ hrest => exact hquoted _ (hrest.lineFeed_not_mem hbare.tail.not_escaped)
  | brokenAtLineFeed _ hbody _ =>
    exact hquoted _ (hbody.lineFeed_not_mem hbare.tail.left.not_escaped)
  | brokenAtReturn _ _ =>
    exact absurd (by simp) hbare.carriageReturn_not_mem

/-- Where a text ends, the one with carriage returns ends in the same way. A literal broken by a
line feed is then broken by a carriage return with a line feed, and pointed out at the same
place. -/
theorem Ending.withReturns {stop? : Option Stop} (h : Ending surface text stop?)
    (hbare : text.HasBareBreaks) : Ending surface text.withReturns stop? := by
  -- two rules are left: the one for literals, and the one for line breaks
  have hblocked : ¬Rule.string.Applies surface text.withReturns →
      ¬Rule.lineBreak.Applies surface text.withReturns →
      ∀ rule : Rule, ¬rule.Applies surface text.withReturns := by
    intro hstring hbreak rule happlies
    cases rule with
    | identifier => exact h.not_applies (happlies.of_withReturns hreturn (by decide))
    | number => exact h.not_applies (happlies.of_withReturns hreturn (by decide))
    | operator => exact h.not_applies (happlies.of_withReturns hreturn (by decide))
    | string => exact hstring happlies
    | lineBreak => exact hbreak happlies
  have hsame := h
  cases h with
  | done => exact Ending.done
  | @unknownSymbol c rest hspace hquote hno =>
    have hc : c ≠ Text.lineFeed := by
      rintro rfl
      exact hno .lineBreak ⟨_, _, Lexeme.lineFeed, ⟨rest, rfl⟩⟩
    have hc' : c ≠ Text.carriageReturn := by
      rintro rfl
      exact hbare.carriageReturn_not_mem (by simp)
    rw [Text.withReturns_cons hc] at hblocked ⊢
    refine Ending.unknownSymbol hspace hquote (hblocked ?_ ?_)
    · intro happlies
      obtain ⟨_, _, heq, hstarts⟩ := happlies.starts
      exact hquote ((List.cons.inj heq).1.trans hstarts)
    · intro happlies
      obtain ⟨_, _, heq, hstarts⟩ := happlies.starts
      rw [← (List.cons.inj heq).1] at hstarts
      exact hstarts.elim hc hc'
  | unterminated _ _ =>
    -- the fault is at the end of the text, so all of it is in one row
    rwa [Text.withReturns_eq_self (hsame.lineFeed_not_mem_passed hbare)]
  | @brokenAtLineFeed body after _ hbody _ =>
    have hfree := hbody.lineFeed_not_mem hbare.tail.left.not_escaped
    rw [Text.withReturns_cons (by decide), Text.withReturns_append,
      Text.withReturns_eq_self hfree, Text.withReturns_lineFeed] at hblocked ⊢
    have hbody' : Literal.Body (body ++ [Text.carriageReturn]) :=
      hbody.append (Literal.Body.nil.plain rfl)
    refine Ending.brokenAtReturn (hblocked ?_ ?_) hbody'
    · have hbroken := @Rule.not_applies_string_of_broken surface _ hbody' after.withReturns
      rwa [List.append_assoc] at hbroken
    · exact Rule.not_applies_lineBreak_apostrophe _
  | brokenAtReturn _ _ => exact absurd (by simp) hbare.carriageReturn_not_mem

end

/-! ## Segments and lexing -/

namespace Segment

/-- The segment with a carriage return in front of every line feed. -/
def withReturns (segment : Segment) : Segment := ⟨segment.lexeme.withReturns, segment.token?⟩

theorem characters_map_withReturns (segments : List Segment) :
    characters (segments.map withReturns) = (characters segments).withReturns := by
  induction segments with
  | nil => rfl
  | cons segment segments ih =>
    rw [List.map_cons, characters_cons, characters_cons, Text.withReturns_append, ih, withReturns]

section

variable {segments : List Segment}
  (h : ∀ segment ∈ segments, ∀ p, segment.withReturns.advance p = segment.advance p)
include h

theorem locate_map_withReturns (p : Position) :
    locate p (segments.map withReturns) = locate p segments := by
  have hsame := @locate_map withReturns segments h id (fun _ _ => by simp [withReturns]) p
  exact hsame.trans (List.map_id _)

theorem advanceAll_map_withReturns (p : Position) :
    advanceAll p (segments.map withReturns) = advanceAll p segments :=
  advanceAll_map h p

end

end Segment

/-- The text with carriage returns has the same segments, with carriage returns in the line breaks,
and they lead to the same positions. -/
theorem Segmentation.withReturns (hreturn : surface.isLetter Text.carriageReturn = false)
    (hfeed : surface.isLetter Text.lineFeed = false) {cut : Cut}
    (h : Segmentation surface text cut) (hbare : text.HasBareBreaks) :
    Segmentation surface text.withReturns
        ⟨cut.segments.map (·.withReturns), cut.stop?⟩ ∧
      ∀ segment ∈ cut.segments, ∀ p, segment.withReturns.advance p = segment.advance p := by
  induction h with
  | stop hending =>
    exact ⟨Segmentation.stop (hending.withReturns hreturn hbare), by simp⟩
  | @spaces count rest cut hcount hrest _ ih =>
    obtain ⟨hmore, hadvance⟩ := ih hbare.right
    have hself : Text.withReturns (List.replicate count Text.space) =
        List.replicate count Text.space := by
      refine Text.withReturns_eq_self fun hmem => ?_
      exact absurd (List.eq_of_mem_replicate hmem) (by decide)
    refine ⟨?_, ?_⟩
    · have hspaces := Segmentation.spaces hcount (Text.head?_withReturns_ne_space hrest) hmore
      rw [Text.withReturns_append, hself]
      simpa only [Cut.after, List.map_cons, Segment.withReturns, hself] using hspaces
    · intro segment hsegment p
      rcases List.mem_cons.mp hsegment with rfl | hsegment
      · rw [Segment.withReturns, hself]
      · exact hadvance segment hsegment p
  | @lexeme rule token lexeme rest cut hspace hmunch _ ih =>
    obtain ⟨hmore, hadvance⟩ := ih hbare.right
    refine ⟨?_, ?_⟩
    · have hhead := Text.head?_withReturns_ne_space hspace
      rw [Text.withReturns_append] at hhead ⊢
      exact Segmentation.lexeme hhead (hmunch.withReturns hreturn hfeed hbare.left) hmore
    · intro segment hsegment p
      rcases List.mem_cons.mp hsegment with rfl | hsegment
      · by_cases hrule : rule = .lineBreak
        · -- a line break leads to the next row, however long it is
          subst hrule
          cases hmunch.written <;> rfl
        · rw [Segment.withReturns, hmunch.written.withReturns_eq_self hfeed hbare.left hrule]
      · exact hadvance segment hsegment p

/-- **Line breaks with and without carriage returns are lexed alike.** If neither a carriage return
nor a line feed is a letter, a text whose rows end with line feeds alone gives the same tokens at
the same positions, and the same failure or none, as the text with a carriage return in front of
every line feed. -/
theorem Dialect.lex_withReturns (dialect : Dialect)
    (hreturn : dialect.isLetter Text.carriageReturn = false)
    (hfeed : dialect.isLetter Text.lineFeed = false) {text : Text} (hbare : text.HasBareBreaks) :
    dialect.lex text.withReturns = dialect.lex text := by
  have hcut := segmentation_cut dialect.surface text
  obtain ⟨rest, htext, hending⟩ := hcut.exists_rest
  obtain ⟨hreturns, hadvance⟩ := hcut.withReturns hreturn hfeed hbare
  have htokens := Segment.locate_map_withReturns hadvance Position.start
  have hend := Segment.advanceAll_map_withReturns hadvance Position.start
  rw [Dialect.lex, Dialect.lex, hreturns.cut_eq]
  simp only [Cut.diagnostic?, htokens, hend, Segment.characters_map_withReturns]
  generalize dialect.surface.cut text = cut at htext hending
  obtain ⟨segments, stop?⟩ := cut
  cases stop? with
  | none => rfl
  | some stop =>
    -- the row that is shown is the one around what is passed
    have hpassed := hending.lineFeed_not_mem_passed (htext ▸ hbare).right
    obtain ⟨after, rfl⟩ := Ending.passed_prefix hending
    have hrow := Text.rowAt_withReturns (Segment.characters segments ++ stop.passed) after
    rw [List.append_assoc, ← htext, Text.withReturns_append, Text.withReturns_eq_self hpassed,
      List.length_append, List.length_append] at hrow
    simp only [Option.map_some, hrow]

/-- A literal broken in the third row of a text. -/
theorem Dialect.lex_withReturns_broken :
    full.isLetter Text.carriageReturn = false ∧ full.isLetter Text.lineFeed = false ∧
      Text.HasBareBreaks "x += 1\n\n  'b\ny".toList ∧
      "x += 1\r\n\r\n  'b\r\ny".toList = Text.withReturns "x += 1\n\n  'b\ny".toList ∧
      full.lex "x += 1\r\n\r\n  'b\r\ny".toList =
        ⟨[⟨.identifier ['x'], ⟨1, 1⟩⟩, ⟨.operator .addAssign, ⟨1, 3⟩⟩,
            ⟨.number ⟨false, .nearest 1 1⟩, ⟨1, 6⟩⟩, ⟨.lineBreak, ⟨1, 7⟩⟩, ⟨.lineBreak, ⟨2, 1⟩⟩],
          some ⟨.literal .broken, ⟨3, 5⟩, some "  'b".toList⟩⟩ := by
  have hreturn : full.isLetter Text.carriageReturn = false := by decide +kernel
  have hfeed : full.isLetter Text.lineFeed = false := by decide +kernel
  have hbare : Text.HasBareBreaks "x += 1\n\n  'b\ny".toList :=
    ⟨by decide +kernel, by decide +kernel⟩
  have hwith : "x += 1\r\n\r\n  'b\r\ny".toList =
      Text.withReturns "x += 1\n\n  'b\ny".toList := by decide +kernel
  refine ⟨hreturn, hfeed, hbare, hwith, ?_⟩
  rw [hwith]
  exact (lex_withReturns full hreturn hfeed hbare).trans (by decide +kernel)

end ScriptLexer
