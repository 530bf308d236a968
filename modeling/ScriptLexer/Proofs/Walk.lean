import ScriptLexer.Proofs.Position
import ScriptLexer.Proofs.Text.Runs

set_option autoImplicit false

/-! # Walking over a text

A position is moved past a whole text at once: its line feeds are counted, and so are the characters
behind the last of them. The file compares this with a walk that passes one character after the
other (`Position.step`). A text with line feeds is a front, the last line feed and a row, and what
is passed at once can be told from these (`past_append_lineFeed`); one more character in front of
the text is one step before the rest (`past_cons`). So both lead to the same place from every
position, and a text can be passed in parts (`past_walk`). -/

namespace ScriptLexer

/-- A text with line feeds ends with a row behind the last of them. -/
theorem Text.exists_last_row {text : Text} (hfeed : lineFeed ∈ text) :
    ∃ front row, text = front ++ lineFeed :: row ∧ lineFeed ∉ row := by
  obtain ⟨before, after, hsplit, hfree⟩ :=
    List.eq_append_cons_of_mem (List.mem_reverse.mpr hfeed)
  refine ⟨after.reverse, before.reverse, ?_, fun h => hfree (List.mem_reverse.mp h)⟩
  rw [← List.reverse_reverse text, hsplit]
  simp

namespace Position

/-- The position behind one more character: a line feed leads to the first column of the next row,
and any other character, a carriage return included, to the next column. -/
def step (p : Position) (c : Char) : Position :=
  if c = Text.lineFeed then ⟨p.row + 1, 1⟩ else ⟨p.row, p.col + 1⟩

variable {c : Char} {text : Text}

/-- Where a text with line feeds ends is told by their number and by the row behind the last. -/
theorem past_append_lineFeed (p : Position) (front : Text) {row : Text}
    (hrow : Text.lineFeed ∉ row) :
    p.past (front ++ Text.lineFeed :: row) =
      ⟨p.row + (front.count Text.lineFeed + 1 : Nat), 1 + row.length⟩ := by
  have hcount : (front ++ Text.lineFeed :: row).count Text.lineFeed =
      front.count Text.lineFeed + 1 := by
    rw [List.count_append, List.count_cons_self, List.count_eq_zero.mpr hrow]
  have hlast : ((front ++ Text.lineFeed :: row).reverse.takeWhile (· != Text.lineFeed)).length =
      row.length := by
    rw [List.reverse_append, List.reverse_cons, List.append_assoc,
      Text.takeWhile_append_of_not_mem fun h => hrow (List.mem_reverse.mp h)]
    simp
  rw [past, hcount, if_neg (Nat.succ_ne_zero _), hlast]
  rfl

/-- A character in front of a text is one step before the rest. -/
theorem past_cons (p : Position) (c : Char) (text : Text) :
    p.past (c :: text) = (p.step c).past text := by
  by_cases hfeed : Text.lineFeed ∈ text
  · -- the last line feed stands behind the character, so the columns end alike
    obtain ⟨front, row, rfl, hrow⟩ := Text.exists_last_row hfeed
    rw [← List.cons_append, past_append_lineFeed p _ hrow, past_append_lineFeed _ _ hrow, step]
    by_cases hc : c = Text.lineFeed
    · rw [if_pos hc, hc, List.count_cons_self]
      simp only [mk.injEq, and_true]
      omega
    · rw [if_neg hc, List.count_cons_of_ne hc]
  · by_cases hc : c = Text.lineFeed
    · rw [hc, past_eq_right hfeed, ← List.nil_append (_ :: text), past_append_lineFeed p [] hfeed]
      rfl
    · have hnone : Text.lineFeed ∉ c :: text :=
        List.not_mem_cons_of_ne_of_not_mem (Ne.symm hc) hfeed
      rw [past_eq_right hnone, past_eq_right hfeed, step, if_neg hc]
      simp only [right, List.length_cons, mk.injEq, true_and]
      omega

/-- The walk over a text leads to where the text is passed at once. -/
theorem past_eq_foldl (p : Position) (text : Text) : p.past text = text.foldl step p := by
  induction text generalizing p with
  | nil =>
    rw [past_eq_right List.not_mem_nil, right, List.length_nil]
    simp
  | cons c text ih => rw [past_cons, ih, List.foldl_cons]

/-- **Passing a text at once is walking over it.** From every position, the walk over a text
character by character leads to where passing it at once leads. So passing two texts one after the
other is passing them joined, and a text without line feeds leads to the right by its length. -/
theorem past_walk :
    (∀ (p : Position) (text : Text), p.past text = text.foldl step p) ∧
    (∀ (p : Position) (a b : Text), p.past (a ++ b) = (p.past a).past b) ∧
    ∀ (p : Position) (text : Text), Text.lineFeed ∉ text → p.past text = p.right text.length := by
  refine ⟨past_eq_foldl, fun p a b => ?_, fun p text hfeed => past_eq_right hfeed p⟩
  calc p.past (a ++ b) = (a ++ b).foldl step p := past_eq_foldl p _
    _ = b.foldl step (a.foldl step p) := List.foldl_append
    _ = (p.past a).past b := by rw [past_eq_foldl p a, past_eq_foldl _ b]

end Position

end ScriptLexer
