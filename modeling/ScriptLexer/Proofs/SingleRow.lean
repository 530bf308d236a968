import ScriptLexer.Proofs.Extension
import ScriptLexer.Proofs.Parts
import ScriptLexer.Proofs.Positions
import ScriptLexer.Proofs.Text.Lines
import ScriptLexer.Proofs.Text.RowAround

set_option autoImplicit false

/-! # Texts of a single row

In a text without line feeds every position lies in the first row, in every dialect: no segment is
a line break, and a position moves over each of them to the right (`Segment.Shaped.advance_eq`). So
no token is a line break, no literal is broken, and a failure shows the text itself if that is a
line (`Dialect.lex_row`). -/

namespace ScriptLexer

/-- In a line, every place has the line around it. -/
theorem Text.IsLine.rowAt {line : Text} (h : line.IsLine) (index : Nat) :
    Text.rowAt line index = line := by
  have hbefore : (line.take index).reverse.takeWhile (· != lineFeed) = (line.take index).reverse :=
    takeWhile_of_not_mem fun hmem =>
      h.lineFeed_not_mem (List.mem_of_mem_take (List.mem_reverse.mp hmem))
  have hafter : (line.drop index).takeWhile (· != lineFeed) = line.drop index :=
    takeWhile_of_not_mem fun hmem => h.lineFeed_not_mem (List.mem_of_mem_drop hmem)
  rw [rowAt_eq, rowFront, rowBack, hbefore, hafter, List.reverse_reverse, List.take_append_drop]
  refine trimEnd_eq_self fun c hc => beq_false_of_ne ?_
  rintro rfl
  exact h.carriageReturn_not_mem (List.mem_of_getLast? hc)

/-! ## Segments in one row -/

namespace Segment

variable {surface : Surface} {segment : Segment} {segments : List Segment}

theorem Shaped.token?_ne_lineBreak (h : segment.Shaped surface)
    (hfeed : Text.lineFeed ∉ segment.lexeme) : segment.token? ≠ some .lineBreak := by
  intro htoken
  cases h with
  | spaces _ => simp at htoken
  | lexeme hwritten =>
    cases hwritten with
    | lineFeed => exact hfeed (by simp)
    | carriageReturn => exact hfeed (by simp)
    | _ => simp at htoken

/-- Without line feeds, a segment moves a position to the right. -/
theorem Shaped.advance_eq (h : segment.Shaped surface) (hfeed : Text.lineFeed ∉ segment.lexeme)
    (p : Position) : segment.advance p = p.right segment.lexeme.length := by
  unfold advance
  split
  next htoken => exact absurd htoken (h.token?_ne_lineBreak hfeed)
  · exact Position.past_eq_right hfeed p
  · rfl

variable (hshaped : ∀ segment ∈ segments, segment.Shaped surface)
  (hfeed : Text.lineFeed ∉ characters segments)
include hshaped hfeed

/-- The run over the segments of a row: it ends as far to the right as they have characters. -/
theorem advanceAll_eq_right (p : Position) :
    advanceAll p segments = p.right (characters segments).length := by
  induction segments generalizing p with
  | nil =>
    show p = p.right 0
    rw [Position.right, Int.add_zero]
  | cons segment segments ih =>
    rw [characters_cons, List.mem_append, not_or] at hfeed
    have hstep := (hshaped segment List.mem_cons_self).advance_eq hfeed.1 p
    have hrest := ih (fun s hs => hshaped s (List.mem_cons_of_mem segment hs)) hfeed.2
    show advanceAll (segment.advance p) segments = _
    rw [hstep, hrest, characters_cons, List.length_append]
    simp only [Position.right, Int.natCast_add, Int.add_assoc]

/-- The tokens of a row stay in it, and none of them is a line break. -/
theorem row_of_mem_locate {p : Position} {located : LocatedToken}
    (h : located ∈ locate p segments) :
    located.position.row = p.row ∧ located.token ≠ .lineBreak := by
  induction segments generalizing p with
  | nil => exact absurd h List.not_mem_nil
  | cons segment segments ih =>
    rw [characters_cons, List.mem_append, not_or] at hfeed
    have hfirst := hshaped segment List.mem_cons_self
    have hmore := fun q => @ih
      (fun s hs => hshaped s (List.mem_cons_of_mem segment hs)) hfeed.2 q
    rw [locate, hfirst.advance_eq hfeed.1] at h
    cases htoken : segment.token? with
    | none =>
      rw [htoken] at h
      exact hmore (p.right _) h
    | some token =>
      rw [htoken] at h
      rcases List.mem_cons.mp h with rfl | h
      · refine ⟨rfl, ?_⟩
        rintro rfl
        exact hfirst.token?_ne_lineBreak hfeed.1 htoken
      · exact hmore (p.right _) h

end Segment

/-! ## Lexing a row -/

namespace Dialect

variable {dialect : Dialect} {text : Text}

theorem lineFeed_not_mem_characters (hfeed : Text.lineFeed ∉ text) :
    Text.lineFeed ∉ Segment.characters (dialect.surface.cut text).segments := by
  intro hmem
  rw [← dialect.characters_append_drop text] at hfeed
  exact hfeed (List.mem_append_left _ hmem)

/-- In one row, lexing comes to an end as far to the right as it has passed characters. -/
theorem endPosition_of_row (hfeed : Text.lineFeed ∉ text) :
    dialect.endPosition text = Position.start.right (dialect.lexedLength text) :=
  Segment.advanceAll_eq_right (segmentation_cut dialect.surface text).shaped
    (lineFeed_not_mem_characters hfeed) Position.start

/-- What lexing finds in one row lies in the first row: its tokens, none of which is a line break,
and its failure, which is no broken literal. -/
theorem lex_row (dialect : Dialect) (hfeed : Text.lineFeed ∉ text) :
    (∀ located ∈ (dialect.lex text).tokens,
      located.position.row = 1 ∧ located.token ≠ .lineBreak) ∧
    ∀ failure, (dialect.lex text).failure? = some failure →
      failure.position.row = 1 ∧ failure.fault ≠ .literal .broken ∧
        (text.IsLine → failure.sourceLine? = some text) := by
  refine ⟨fun located hlocated => ?_, fun failure hfailure => ?_⟩
  · exact Segment.row_of_mem_locate (segmentation_cut dialect.surface text).shaped
      (lineFeed_not_mem_characters hfeed) hlocated
  · obtain ⟨stop, hstop, rfl⟩ := lex_failure?_eq_some_iff.mp hfailure
    have hending := ending_of_stop hstop
    have hrest : Text.lineFeed ∉ text.drop (dialect.lexedLength text) :=
      fun hmem => hfeed (List.mem_of_mem_drop hmem)
    have hpassed : Text.lineFeed ∉ stop.passed :=
      fun hmem => hrest (hending.passed_prefix.subset hmem)
    refine ⟨?_, fun hbroken => ?_, fun hline => ?_⟩
    · show ((dialect.endPosition text).past stop.passed).row = 1
      rw [endPosition_of_row hfeed, Position.past_eq_right hpassed]
      rfl
    · exact hrest (List.mem_of_mem_drop (hending.lineFeed_mem hbroken).2)
    · show some (text.rowAt _) = some text
      rw [hline.rowAt]

end Dialect

end ScriptLexer
