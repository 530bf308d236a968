import ScriptLexer.Proofs.Text.Runs
import ScriptLexer.Text.Rows

set_option autoImplicit false

/-! # The row around an index

An index divides its row into the characters in front of it (`rowFront`) and those from it on
(`rowBack`). The two parts are found by going backwards and forwards from the index; the file
shows that they make up an element of the text split at its line feeds, the one with as many
rows before it as there are line feeds in front of the index (`getElem?_splitOn`). -/

namespace ScriptLexer.Text

variable {text : Text} {index : Nat}

/-- The characters of a row in front of an index. -/
def rowFront (text : Text) (index : Nat) : Text :=
  ((text.take index).reverse.takeWhile (· != lineFeed)).reverse

/-- The characters of a row from an index on. -/
def rowBack (text : Text) (index : Nat) : Text := (text.drop index).takeWhile (· != lineFeed)

theorem rowAt_eq (text : Text) (index : Nat) :
    text.rowAt index = trimEnd (· == carriageReturn) (text.rowFront index ++ text.rowBack index) :=
  rfl

theorem rowFront_zero (text : Text) : text.rowFront 0 = [] := by simp [rowFront]

/-- A row starts behind a line feed. -/
theorem rowFront_lineFeed (text : Text) (index : Nat) :
    rowFront (lineFeed :: text) (index + 1) = text.rowFront index := by
  rw [rowFront, List.take_succ_cons, List.reverse_cons, rowFront]
  by_cases hmem : lineFeed ∈ (text.take index).reverse
  · rw [takeWhile_append_of_mem hmem]
  · rw [takeWhile_append_of_not_mem hmem, takeWhile_of_not_mem hmem]
    simp

/-- Another character is in the row of the next one if no line feed comes before the index. -/
theorem rowFront_cons {c : Char} (hc : c ≠ lineFeed) (text : Text) (index : Nat) :
    rowFront (c :: text) (index + 1) =
      if lineFeed ∈ text.take index then text.rowFront index else c :: text.rowFront index := by
  rw [rowFront, List.take_succ_cons, List.reverse_cons, rowFront]
  split
  next hmem => rw [takeWhile_append_of_mem (List.mem_reverse.mpr hmem)]
  next hfree =>
    have hreverse : lineFeed ∉ (text.take index).reverse := fun h =>
      hfree (List.mem_reverse.mp h)
    rw [takeWhile_append_of_not_mem hreverse, takeWhile_of_not_mem hreverse]
    simp [hc]

/-- The first row runs up to the first line feed. -/
theorem getElem?_splitOn_zero (text : Text) :
    (text.splitOn lineFeed)[0]? = some (text.takeWhile (· != lineFeed)) := by
  induction text with
  | nil => rfl
  | cons c text ih =>
    rw [List.splitOn_cons_eq_if_modifyHead]
    by_cases hc : c = lineFeed
    · simp [hc]
    · simp [hc, List.getElem?_modifyHead, ih]

/-- **The two parts of the row around an index make up a row of the text**: the one that comes
after as many rows as there are line feeds in front of the index. -/
theorem getElem?_splitOn (text : Text) (index : Nat) :
    (text.splitOn lineFeed)[(text.take index).count lineFeed]? =
      some (text.rowFront index ++ text.rowBack index) := by
  induction text generalizing index with
  | nil => simp [rowFront, rowBack]
  | cons c text ih =>
    cases index with
    | zero =>
      rw [List.take_zero, List.count_nil, rowFront_zero, getElem?_splitOn_zero]
      rfl
    | succ index =>
      rw [List.splitOn_cons_eq_if_modifyHead, List.take_succ_cons]
      by_cases hc : c = lineFeed
      · subst hc
        rw [List.count_cons_self, if_pos (by simp), List.getElem?_cons_succ, ih,
          rowFront_lineFeed]
        rfl
      · rw [List.count_cons_of_ne hc, if_neg (by simpa using hc), List.getElem?_modifyHead, ih,
          rowFront_cons hc]
        by_cases hmem : lineFeed ∈ text.take index
        · rw [if_neg (fun h => List.count_eq_zero.mp h hmem), if_pos hmem]
          rfl
        · rw [if_pos (List.count_eq_zero.mpr hmem), if_neg hmem]
          rfl

theorem lineFeed_not_mem_row (text : Text) (index : Nat) :
    lineFeed ∉ text.rowFront index ++ text.rowBack index := by
  rw [List.mem_append, not_or]
  constructor
  · rw [rowFront, List.mem_reverse]
    exact not_mem_takeWhile lineFeed _
  · exact not_mem_takeWhile lineFeed _

/-! ## Trimmed ends -/

variable {drop : Char → Bool}

/-- What is trimmed off a text ends at a character that is kept. -/
theorem trimEnd_append_cons {c : Char} (hc : drop c = false) (front back : Text) :
    trimEnd drop (front ++ c :: back) = front ++ c :: trimEnd drop back := by
  rw [trimEnd, List.reverse_append, List.reverse_cons, List.append_assoc, List.dropWhile_append]
  split
  next hback =>
    rw [List.isEmpty_iff] at hback
    rw [trimEnd, hback]
    simp [hc]
  · simp [trimEnd]

/-- A text that ends with characters to be trimmed is trimmed further in front of them. -/
theorem trimEnd_append {back : Text} (hback : ∀ c ∈ back, drop c = true) (front : Text) :
    trimEnd drop (front ++ back) = trimEnd drop front := by
  rw [trimEnd, List.reverse_append, List.dropWhile_append_of_pos, trimEnd]
  intro c hc
  exact hback c (List.mem_reverse.mp hc)

theorem length_trimEnd_le (drop : Char → Bool) (text : Text) :
    (trimEnd drop text).length ≤ text.length := by
  calc (trimEnd drop text).length
      = (text.reverse.dropWhile drop).length := List.length_reverse
    _ ≤ text.reverse.length := (List.dropWhile_sublist drop).length_le
    _ = text.length := List.length_reverse

theorem trimEnd_eq_self (h : ∀ c ∈ text.getLast?, drop c = false) : trimEnd drop text = text := by
  rcases List.eq_nil_or_concat text with rfl | ⟨front, c, rfl⟩
  · rfl
  · rw [List.concat_eq_append] at h ⊢
    exact trimEnd_append_cons (h c (by simp)) front []

end ScriptLexer.Text
