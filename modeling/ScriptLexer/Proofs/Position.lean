import ScriptLexer.Position
import Mathlib.Data.List.TakeWhile

set_option autoImplicit false

/-! # Positions and row ends

A position can be counted off the characters in front of it, if for each of them it is known
whether it ends a row (`Position.after`). The moves of a position agree with this count: a move
to the right passes characters that end no row, a move down passes one that does, and a move
past a text passes line feeds that all do. -/

namespace ScriptLexer.Position

/-- The position after some characters, told for each of them whether it ends a row: one row
further down for each that does, and one column to the right for each after the last of them. -/
def after (rowEnds : List Bool) : Position :=
  ⟨1 + rowEnds.count true, 1 + (rowEnds.reverse.takeWhile (!·)).length⟩

/-- The row and the column of the character at an index of a text. -/
def ofIndex (text : Text) (index : Nat) : Position :=
  ⟨1 + (text.take index).count Text.lineFeed,
    1 + ((text.take index).reverse.takeWhile (· != Text.lineFeed)).length⟩

/-- A text without line feeds leads to the right. -/
theorem past_eq_right {text : Text} (hfeed : Text.lineFeed ∉ text) (p : Position) :
    p.past text = p.right text.length := by
  rw [past, if_pos (List.count_eq_zero.mpr hfeed)]

/-- A text leads as many rows down as it has line feeds. -/
theorem row_past (p : Position) (text : Text) :
    (p.past text).row = p.row + (text.count Text.lineFeed : Nat) := by
  by_cases hfeed : text.count Text.lineFeed = 0
  · rw [past, if_pos hfeed, hfeed]
    exact (Int.add_zero _).symm
  · rw [past, if_neg hfeed]
    rfl

/-- The line feeds of a text, counted as ends of rows. -/
theorem count_rowEnds (text : Text) :
    (text.map (· == Text.lineFeed)).count true = text.count Text.lineFeed := by
  simp [List.count, List.countP_map, Function.comp_def]

/-- Characters that end no row lead to the right. -/
theorem after_append_right (before : List Bool) {passed : List Bool}
    (hpassed : ∀ ends ∈ passed, ends = false) :
    after (before ++ passed) = (after before).right passed.length := by
  have hcount : passed.count true = 0 := by
    rw [List.count_eq_zero]
    intro htrue
    exact absurd (hpassed true htrue) (by decide)
  have htake : (before ++ passed).reverse.takeWhile (!·) =
      passed.reverse ++ before.reverse.takeWhile (!·) := by
    rw [List.reverse_append, List.takeWhile_append_of_pos]
    intro ends hends
    simp [hpassed ends (List.mem_reverse.mp hends)]
  simp only [after, right, htake, List.count_append, hcount, List.length_append,
    List.length_reverse, mk.injEq]
  omega

/-- Characters of which only the last ends a row lead to the start of the next row. -/
theorem after_append_down (before passed : List Bool)
    (hpassed : ∀ ends ∈ passed, ends = false) :
    after (before ++ (passed ++ [true])) = (after before).down 1 := by
  have hcount : passed.count true = 0 := by
    rw [List.count_eq_zero]
    intro htrue
    exact absurd (hpassed true htrue) (by decide)
  simp [after, down, hcount]
  omega

/-- A text in which every line feed ends a row. -/
theorem after_append_past (before : List Bool) (text : Text) :
    after (before ++ text.map (· == Text.lineFeed)) = (after before).past text := by
  by_cases hbreaks : text.count Text.lineFeed = 0
  · have hfree : ∀ ends ∈ text.map (· == Text.lineFeed), ends = false := by
      intro ends hends
      obtain ⟨c, hc, rfl⟩ := List.mem_map.mp hends
      have hne : c ≠ Text.lineFeed := fun h => (List.count_eq_zero.mp hbreaks) (h ▸ hc)
      simpa using hne
    rw [after_append_right before hfree, past, if_pos hbreaks, List.length_map]
  · -- the last line feed of the text starts the column anew
    have hmem : Text.lineFeed ∈ text := by
      rw [List.count_eq_zero, not_not] at hbreaks
      exact hbreaks
    have hstop : (text.reverse.takeWhile (· != Text.lineFeed)).length ≠ text.length := by
      intro hlength
      have hwhole := (List.takeWhile_prefix (· != Text.lineFeed)).eq_of_length
        (hlength.trans List.length_reverse.symm)
      have := List.takeWhile_eq_self_iff.mp hwhole Text.lineFeed (List.mem_reverse.mpr hmem)
      simp at this
    have htake : ((before ++ text.map (· == Text.lineFeed)).reverse.takeWhile (!·)).length =
        (text.reverse.takeWhile (· != Text.lineFeed)).length := by
      have hmap : (text.map (· == Text.lineFeed)).reverse.takeWhile (!·) =
          (text.reverse.takeWhile (· != Text.lineFeed)).map (· == Text.lineFeed) := by
        rw [← List.map_reverse, List.takeWhile_map]
        rfl
      rw [List.reverse_append, List.takeWhile_append, hmap, List.length_map,
        List.length_reverse, List.length_map, if_neg hstop, List.length_map]
    rw [past, if_neg hbreaks]
    simp only [after, down, right, htake, List.count_append, count_rowEnds, mk.injEq, and_true]
    omega

/-- The true position is the one where every line feed ends a row. -/
theorem ofIndex_eq_after (text : Text) (index : Nat) :
    ofIndex text index = after ((text.map (· == Text.lineFeed)).take index) := by
  rw [← List.map_take, ofIndex, after, count_rowEnds, ← List.map_reverse, List.takeWhile_map,
    List.length_map]
  rfl

end ScriptLexer.Position
