import ScriptLexer.Proofs.Separator
import ScriptLexer.Proofs.SingleRow

set_option autoImplicit false

/-! # Programs row by row

A text in which carriage returns stand only in front of line feeds is made of rows
(`Text.Rows`). If every row is lexed without a failure on its own, so is the text: its tokens are
those of the rows, each in its row at the column it has alone, and a line break for every line
feed (`Dialect.lex_rows`). The step is one row with the break that ends it
(`Dialect.lex_row_append`). -/

namespace ScriptLexer

/-! ## Rows -/

namespace Text

/-- Carriage returns stand only in front of line feeds. -/
def ReturnsEndRows (text : Text) : Prop :=
  ∀ index : Nat, text[index]? = some carriageReturn → text[index + 1]? = some lineFeed

instance (text : Text) : Decidable text.ReturnsEndRows :=
  decidable_of_iff (∀ index < text.length,
      text[index]? = some carriageReturn → text[index + 1]? = some lineFeed)
    ⟨fun h index hreturn => h index (List.getElem?_eq_some_iff.mp hreturn).1 hreturn,
      fun h index _ => h index⟩

/-- The text is written row by row, each row ended by a line feed, alone or behind a carriage
return. Behind the last of them there may be one more row, which is not empty. -/
inductive Rows : List Text → Text → Prop where
  | nil : Rows [] []
  | last {row : Text} (hrow : row.IsLine) (hne : row ≠ []) : Rows [row] row
  | ended {row rest : Text} {rows : List Text} {lineEnd : LineEnd} (hrow : row.IsLine)
      (hend : lineEnd ≠ .carriageReturn) (h : Rows rows rest) :
      Rows (row :: rows) (row ++ (lineEnd.text ++ rest))

/-- One more character in front, unless it belongs to a line break, is one more in the first row. -/
theorem Rows.cons {c : Char} (hreturn : c ≠ carriageReturn) (hfeed : c ≠ lineFeed)
    {row : Text} {rows : List Text} {text : Text} (h : Rows (row :: rows) text) :
    Rows ((c :: row) :: rows) (c :: text) := by
  cases h with
  | last hrow hne => exact Rows.last (hrow.cons hreturn hfeed) (List.cons_ne_nil c row)
  | ended hrow hend hrest => exact Rows.ended (hrow.cons hreturn hfeed) hend hrest

theorem ReturnsEndRows.drop {front text : Text} (h : ReturnsEndRows (front ++ text)) :
    text.ReturnsEndRows := by
  intro index hreturn
  have hshift : ∀ i, (front ++ text)[front.length + i]? = text[i]? := by
    intro i
    rw [List.getElem?_append_right (Nat.le_add_right _ _), Nat.add_sub_cancel_left]
  have hnext := h (front.length + index) ((hshift index).trans hreturn)
  rwa [Nat.add_assoc, hshift] at hnext

/-- The lines that are read from such a text are its rows. -/
theorem rows_lines {text : Text} (h : text.ReturnsEndRows) : Rows (lines text) text := by
  -- the cases are those of reading lines
  induction text using lines.induct with
  | case1 => exact Rows.nil
  | case2 rest ih =>
    have hrest : ReturnsEndRows rest := @ReturnsEndRows.drop [carriageReturn, lineFeed] rest h
    exact @Rows.ended [] rest _ .both IsLine.nil (by decide) (ih hrest)
  | case3 rest hbare ih =>
    have hnext : rest.head? = some lineFeed := List.head?_eq_getElem?.trans (h 0 rfl)
    obtain ⟨more, rfl⟩ := List.head?_eq_some_iff.mp hnext
    exact absurd rfl (hbare more)
  | case4 rest ih =>
    have hrest : ReturnsEndRows rest := @ReturnsEndRows.drop [lineFeed] rest h
    exact @Rows.ended [] rest _ .lineFeed IsLine.nil (by decide) (ih hrest)
  | case5 c rest _ hreturn hfeed hnone ih =>
    have hrest := ih (@ReturnsEndRows.drop [c] rest h)
    rw [hnone] at hrest
    obtain rfl : rest = [] := by
      cases hrest
      rfl
    rw [lines_cons hreturn hfeed, hnone]
    exact Rows.last (IsLine.nil.cons hreturn hfeed) (List.cons_ne_nil c [])
  | case6 c rest _ hreturn hfeed row more hsome ih =>
    have hrest := ih (@ReturnsEndRows.drop [c] rest h)
    rw [hsome] at hrest
    rw [lines_cons hreturn hfeed, hsome]
    exact hrest.cons hreturn hfeed

theorem Rows.isLine {rows : List Text} {text : Text} (h : Rows rows text) :
    ∀ row ∈ rows, row.IsLine := by
  induction h with
  | nil => exact fun row hrow => absurd hrow List.not_mem_nil
  | last hrow _ =>
    intro row hmem
    exact List.mem_singleton.mp hmem ▸ hrow
  | ended hrow _ _ ih =>
    intro row hmem
    rcases List.mem_cons.mp hmem with rfl | hmem
    · exact hrow
    · exact ih row hmem

end Text

/-- A row ends with one line feed, unless it ends with a carriage return alone. -/
theorem LineEnd.count_text {lineEnd : LineEnd} (hend : lineEnd ≠ .carriageReturn) :
    lineEnd.text.count Text.lineFeed = 1 := by
  cases lineEnd with
  | lineFeed => rfl
  | both => rfl
  | carriageReturn => exact absurd rfl hend

/-! ## One row and the break that ends it -/

section

variable {surface : Surface} {lineEnd : LineEnd} (hend : lineEnd ≠ .carriageReturn)
  (hreturn : surface.isLetter Text.carriageReturn = false)
  (hfeed : surface.isLetter Text.lineFeed = false)
include hend

theorem LineEnd.lexeme : Lexeme surface .lineBreak .lineBreak lineEnd.text := by
  cases lineEnd with
  | lineFeed => exact Lexeme.lineFeed
  | both => exact Lexeme.carriageReturn
  | carriageReturn => exact absurd rfl hend

include hreturn hfeed

theorem LineEnd.head?_separator (rest : Text) :
    ∀ c ∈ (lineEnd.text ++ rest).head?, c ∈ Text.separators ∧ surface.isLetter c = false := by
  intro c hc
  cases lineEnd with
  | lineFeed =>
    obtain rfl : Text.lineFeed = c := Option.some.inj hc
    exact ⟨by decide, hfeed⟩
  | both =>
    obtain rfl : Text.carriageReturn = c := Option.some.inj hc
    exact ⟨by decide, hreturn⟩
  | carriageReturn => exact absurd rfl hend

/-- At the end of a row the rules pick the line break. -/
theorem LineEnd.munch (rest : Text) :
    Munch surface .lineBreak (lineEnd.text ++ rest) .lineBreak lineEnd.text := by
  have hlexeme := @LineEnd.lexeme surface lineEnd hend
  refine ⟨hlexeme.longest fun c _ => id, fun earlier hrank happlies => ?_⟩
  obtain ⟨c, more, htext, hstarts⟩ := happlies.starts
  obtain ⟨hseparator, hletter⟩ :=
    LineEnd.head?_separator hend hreturn hfeed rest c (by rw [htext]; rfl)
  -- no rule but the one for line breaks starts with such a character, unless it is a letter
  have hearlier : earlier ≠ .identifier := by
    rintro rfl
    exact absurd (hletter.symm.trans hstarts) (by decide)
  have hbreak : Rule.starts surface .lineBreak c := by
    obtain ⟨c', more', heq, hc'⟩ := hlexeme.starts
    rw [heq] at htext
    exact (List.cons.inj htext).1 ▸ hc'
  have hrule : earlier = .lineBreak := by
    have hfirst := Rule.ofReserved?_of_starts hstarts hearlier
    rw [Rule.ofReserved?_of_starts hbreak (by decide)] at hfirst
    exact (Option.some.inj hfirst).symm
  rw [hrule] at hrank
  exact absurd hrank (Nat.lt_irrefl _)

/-- The cut goes on behind the end of a row. -/
theorem LineEnd.cut_append (rest : Text) :
    surface.cut (lineEnd.text ++ rest) =
      (surface.cut rest).after ⟨lineEnd.text, some .lineBreak⟩ := by
  have hspace : (lineEnd.text ++ rest).head? ≠ some Text.space := by
    cases lineEnd with
    | carriageReturn => exact absurd rfl hend
    | _ => exact fun h => absurd (Option.some.inj h) (by decide)
  have hmunch := LineEnd.munch hend hreturn hfeed rest
  rw [Surface.cut_token hspace (Surface.scan_eq_token_iff.mpr ⟨_, hmunch⟩), List.drop_left]

end

/-! ## Tokens in other rows -/

namespace LocatedToken

/-- The token some rows further down. -/
def lower (rows : Nat) (located : LocatedToken) : LocatedToken :=
  ⟨located.token, ⟨located.position.row + rows, located.position.col⟩⟩

/-- The token in another row, at the column that it has. -/
def inRow (row : Nat) (located : LocatedToken) : LocatedToken :=
  ⟨located.token, ⟨row, located.position.col⟩⟩

theorem lower_zero (located : LocatedToken) : located.lower 0 = located := by
  obtain ⟨token, row, col⟩ := located
  simp [lower]

theorem lower_lower (located : LocatedToken) (a b : Nat) :
    (located.lower a).lower b = located.lower (b + a) := by
  simp only [lower, mk.injEq, Position.mk.injEq, true_and, and_true]
  omega

theorem lower_eq_inRow {located : LocatedToken} (h : located.position.row = 1) (rows : Nat) :
    located.lower rows = located.inRow (rows + 1) := by
  simp only [lower, inRow, h, mk.injEq, Position.mk.injEq, true_and, and_true]
  omega

theorem behind_eq_lower (located : LocatedToken) : located.behind ⟨2, 1⟩ = located.lower 1 := by
  simp only [behind, lower, Position.behind, mk.injEq, Position.mk.injEq, true_and]
  omega

end LocatedToken

/-- From the start of the second row, segments give the same tokens one row further down. -/
theorem Segment.locate_second (segments : List Segment) :
    locate ⟨2, 1⟩ segments = (locate Position.start segments).map (·.lower 1) := by
  have hbehind := occurrences_behind segments (p := Position.start) (Int.le_refl 1) ⟨2, 1⟩ 0 0
  rw [Position.start_behind] at hbehind
  calc locate ⟨2, 1⟩ segments
      = (occurrences ⟨2, 1⟩ 0 segments).map (·.toLocatedToken) := (map_occurrences _ _ _).symm
    _ = ((occurrences Position.start 0 segments).map (·.behind ⟨2, 1⟩ 0)).map
          (·.toLocatedToken) := by rw [hbehind]
    _ = ((occurrences Position.start 0 segments).map (·.toLocatedToken)).map
          (·.behind ⟨2, 1⟩) := by rw [List.map_map, List.map_map]; rfl
    _ = (locate Position.start segments).map (·.lower 1) := by
          rw [map_occurrences]
          exact List.map_congr_left fun located _ => located.behind_eq_lower

namespace Dialect

variable {dialect : Dialect} (hreturn : dialect.isLetter Text.carriageReturn = false)
  (hfeed : dialect.isLetter Text.lineFeed = false)
include hreturn hfeed

/-- The step from one row to the rest of a text: behind the tokens of the row, which is lexed
without a failure, stands a line break at its end, and then come the tokens of the rest, one row
further down. -/
theorem lex_row_append {row : Text} (hrow : row.IsLine) (hok : (dialect.lex row).ok = true)
    {lineEnd : LineEnd} (hend : lineEnd ≠ .carriageReturn) (rest : Text) :
    (dialect.lex (row ++ (lineEnd.text ++ rest))).tokens =
        (dialect.lex row).tokens ++ ⟨.lineBreak, Position.start.right row.length⟩ ::
          (dialect.lex rest).tokens.map (·.lower 1) ∧
      ((dialect.lex (row ++ (lineEnd.text ++ rest))).ok = true ↔
        (dialect.lex rest).ok = true) := by
  obtain ⟨hsegments, hstop?⟩ := (segmentation_cut dialect.surface row).append_separator
    (LineEnd.head?_separator hend hreturn hfeed rest) (lex_ok_iff.mp hok)
  rw [LineEnd.cut_append hend hreturn hfeed] at hsegments hstop?
  have hposition : dialect.endPosition row = Position.start.right row.length := by
    rw [endPosition_of_row hrow.lineFeed_not_mem, lexedLength_of_ok hok]
  constructor
  · calc (dialect.lex (row ++ (lineEnd.text ++ rest))).tokens
        = (Segment.occurrences Position.start 0 ((dialect.surface.cut row).segments ++
            ⟨lineEnd.text, some .lineBreak⟩ :: (dialect.surface.cut rest).segments)).map
              (·.toLocatedToken) := by
            rw [lex_tokens, Dialect.occurrences, hsegments.occurrences]
            rfl
      _ = (dialect.lex row).tokens ++ Segment.locate (dialect.endPosition row)
            (⟨lineEnd.text, some .lineBreak⟩ :: (dialect.surface.cut rest).segments) := by
            rw [Segment.occurrences_append, List.map_append, Segment.map_occurrences,
              Segment.map_occurrences]
            rfl
      _ = (dialect.lex row).tokens ++ ⟨.lineBreak, Position.start.right row.length⟩ ::
            Segment.locate ⟨2, 1⟩ (dialect.surface.cut rest).segments := by
            rw [hposition]
            rfl
      _ = _ := by
            rw [Segment.locate_second]
            rfl
  · rw [lex_ok_iff, lex_ok_iff, hstop?]
    rfl

omit hreturn hfeed in
/-- A row by itself has no line breaks, and its tokens are in the first row. -/
theorem filter_lower_row (dialect : Dialect) {row : Text} (hrow : row.IsLine) (front : Nat) :
    ((dialect.lex row).tokens.map (·.lower front)).filter (·.token ≠ .lineBreak) =
      (dialect.lex row).tokens.map (·.inRow (front + 1)) := by
  obtain ⟨htokens, -⟩ := dialect.lex_row hrow.lineFeed_not_mem
  rw [List.filter_eq_self.mpr]
  · exact List.map_congr_left fun located hlocated =>
      LocatedToken.lower_eq_inRow (htokens located hlocated).1 front
  · intro located hlocated
    obtain ⟨origin, horigin, rfl⟩ := List.mem_map.mp hlocated
    exact decide_eq_true (htokens origin horigin).2

variable {rows : List Text} {text : Text}

theorem ok_of_rows (h : Text.Rows rows text) (hok : ∀ row ∈ rows, (dialect.lex row).ok = true) :
    (dialect.lex text).ok = true := by
  induction h with
  | nil => rw [lex_ok_iff, Surface.cut_nil]
  | @last row _ _ => exact hok row List.mem_cons_self
  | @ended row rest rows lineEnd hrow hend _ ih =>
    have hfirst := hok row List.mem_cons_self
    have hmore := ih fun other hother => hok other (List.mem_cons_of_mem row hother)
    exact (lex_row_append hreturn hfeed hrow hfirst hend rest).2.mpr hmore

/-- The run over the rows of a text, some rows standing in front of it: line breaks aside, the
tokens are those of the rows. -/
theorem filter_lower_rows (h : Text.Rows rows text)
    (hok : ∀ row ∈ rows, (dialect.lex row).ok = true) (front : Nat) :
    ((dialect.lex text).tokens.map (·.lower front)).filter (·.token ≠ .lineBreak) =
      (rows.zipIdx (front + 1)).flatMap fun row =>
        (dialect.lex row.1).tokens.map (·.inRow row.2) := by
  -- the rows in front are generalized: the rest of the text has one more of them
  induction h generalizing front with
  | nil => rw [lex_tokens, occurrences, Surface.cut_nil]; rfl
  | @last row hrow _ =>
    rw [dialect.filter_lower_row hrow, List.zipIdx_singleton, List.flatMap_singleton]
  | @ended row rest rows lineEnd hrow hend _ ih =>
    have hfirst := hok row List.mem_cons_self
    have hmore := ih (fun other hother => hok other (List.mem_cons_of_mem row hother)) (front + 1)
    have hlower : ((dialect.lex rest).tokens.map (·.lower 1)).map (·.lower front) =
        (dialect.lex rest).tokens.map (·.lower (front + 1)) := by
      rw [List.map_map]
      exact List.map_congr_left fun located _ => located.lower_lower 1 front
    rw [(lex_row_append hreturn hfeed hrow hfirst hend rest).1, List.map_append, List.map_cons,
      hlower, List.filter_append, dialect.filter_lower_row hrow, List.filter_cons_of_neg,
      hmore, List.zipIdx_cons, List.flatMap_cons]
    simp [LocatedToken.lower]

/-- There is a line break for every line feed. -/
theorem count_lineBreak_rows (h : Text.Rows rows text)
    (hok : ∀ row ∈ rows, (dialect.lex row).ok = true) :
    ((dialect.lex text).tokens.map (·.token)).count .lineBreak = text.count Text.lineFeed := by
  -- a single row has neither
  have hnone : ∀ row : Text, row.IsLine →
      ((dialect.lex row).tokens.map (·.token)).count .lineBreak = 0 := by
    intro row hrow
    rw [List.count_eq_zero]
    intro hmem
    obtain ⟨located, hlocated, htoken⟩ := List.mem_map.mp hmem
    exact ((dialect.lex_row hrow.lineFeed_not_mem).1 located hlocated).2 htoken
  induction h with
  | nil => rw [lex_tokens, occurrences, Surface.cut_nil]; rfl
  | @last row hrow _ => rw [hnone row hrow, List.count_eq_zero.mpr hrow.lineFeed_not_mem]
  | @ended row rest rows lineEnd hrow hend _ ih =>
    have hfirst := hok row List.mem_cons_self
    have hmore := ih fun other hother => hok other (List.mem_cons_of_mem row hother)
    have htokens : ((dialect.lex rest).tokens.map (·.lower 1)).map (·.token) =
        (dialect.lex rest).tokens.map (·.token) := by
      rw [List.map_map]
      rfl
    calc ((dialect.lex (row ++ (lineEnd.text ++ rest))).tokens.map (·.token)).count .lineBreak
        = ((dialect.lex row).tokens.map (·.token)).count .lineBreak +
            (((dialect.lex rest).tokens.map (·.token)).count .lineBreak + 1) := by
          rw [(lex_row_append hreturn hfeed hrow hfirst hend rest).1, List.map_append,
            List.map_cons, htokens, List.count_append, List.count_cons_self]
      _ = row.count Text.lineFeed +
            (lineEnd.text.count Text.lineFeed + rest.count Text.lineFeed) := by
          rw [hnone row hrow, hmore, List.count_eq_zero.mpr hrow.lineFeed_not_mem,
            LineEnd.count_text hend, Nat.add_comm 1]
      _ = (row ++ (lineEnd.text ++ rest)).count Text.lineFeed := by
          rw [List.count_append, List.count_append]

/-- **A program is lexed row by row.** If carriage returns stand only in front of line feeds, and
neither of the two is a letter, a text whose rows are lexed one by one without a failure is lexed
without a failure. Its tokens are those of the rows, each in its row and at the column that it has
if the row stands alone, and a line break for every line feed. -/
theorem lex_rows (htext : text.ReturnsEndRows)
    (hok : ∀ row ∈ Text.lines text, (dialect.lex row).ok = true) :
    (dialect.lex text).ok = true ∧
      (dialect.lex text).tokens.filter (·.token ≠ .lineBreak) =
        ((Text.lines text).zipIdx 1).flatMap (fun row =>
          (dialect.lex row.1).tokens.map (·.inRow row.2)) ∧
      ((dialect.lex text).tokens.map (·.token)).count .lineBreak = text.count Text.lineFeed := by
  have hrows := Text.rows_lines htext
  have hfilter := filter_lower_rows hreturn hfeed hrows hok 0
  have hlower : (dialect.lex text).tokens.map (·.lower 0) = (dialect.lex text).tokens := by
    rw [List.map_congr_left fun located _ => located.lower_zero, List.map_id']
  rw [hlower] at hfilter
  exact ⟨ok_of_rows hreturn hfeed hrows hok, hfilter, count_lineBreak_rows hreturn hfeed hrows hok⟩

end Dialect

end ScriptLexer
