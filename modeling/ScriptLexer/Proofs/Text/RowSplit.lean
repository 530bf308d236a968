import ScriptLexer.Proofs.Text.RowAround

set_option autoImplicit false

/-! # Rows by searching and by splitting

The row around an index can be found in place: a search goes backwards for the last line feed in
front of the index (`lineFeedBefore?`), another goes forwards for the first one from the index on
(`lineFeedFrom?`), and where a search finds nothing the row starts or stops with the text. The file
compares what lies between the two (`rowBetween`) with the whole text split at its line feeds. For
every index, beyond the text too, they give the same row, the one with as many rows before it as
there are line feeds in front of the index; a diagnostic shows it without the carriage returns at
its end (`rowAt_split`). An index at a line break is in the row that the break ends. -/

namespace ScriptLexer.Text

/-! ## The two searches -/

/-- The last index in front of a given one at which a line feed stands. -/
def lineFeedBefore? (text : Text) : Nat → Option Nat
  | 0 => none
  | index + 1 => if text[index]? = some lineFeed then some index else lineFeedBefore? text index

/-- The first index from a given one on at which a line feed stands. -/
def lineFeedFrom? (text : Text) (index : Nat) : Option Nat :=
  ((text.drop index).idxOf? lineFeed).map (index + ·)

/-- Where the row around an index starts: behind the line feed before it, or with the text. -/
def rowStart (text : Text) (index : Nat) : Nat := (text.lineFeedBefore? index).elim 0 (· + 1)

/-- Where the row around an index stops: at the next line feed, or with the text. -/
def rowStop (text : Text) (index : Nat) : Nat := (text.lineFeedFrom? index).getD text.length

/-- The characters from where the row around an index starts up to where it stops. -/
def rowBetween (text : Text) (index : Nat) : Text :=
  (text.take (text.rowStop index)).drop (text.rowStart index)

/-- One step of the search backwards. -/
theorem rowStart_succ (text : Text) (index : Nat) :
    text.rowStart (index + 1) =
      if text[index]? = some lineFeed then index + 1 else text.rowStart index := by
  rw [rowStart, lineFeedBefore?]
  split <;> rfl

/-- One more character in front of the index is one more in the front of its row, unless it is a
line feed. -/
theorem rowFront_succ (text : Text) (index : Nat) :
    text.rowFront (index + 1) =
      if text[index]? = some lineFeed then [] else text.rowFront index ++ text[index]?.toList := by
  rw [rowFront, List.take_add_one, List.reverse_append, rowFront]
  cases text[index]? with
  | none => simp
  | some c =>
    by_cases hc : c = lineFeed <;> simp [hc]

theorem rowStart_le (text : Text) (index : Nat) : text.rowStart index ≤ text.length := by
  induction index with
  | zero => exact Nat.zero_le _
  | succ index ih =>
    rw [rowStart_succ]
    split
    next hfeed => exact (List.getElem?_eq_some_iff.mp hfeed).1
    · exact ih

/-- What lies between the start of a row and an index is the front of the row. -/
theorem take_rowStart_append (text : Text) (index : Nat) :
    text.take (text.rowStart index) ++ text.rowFront index = text.take index := by
  -- the search goes back index by index, so the induction is on the index and not on the text
  induction index with
  | zero => rfl
  | succ index ih =>
    rw [rowStart_succ, rowFront_succ]
    split
    · rw [List.append_nil]
    · rw [← List.append_assoc, ih, List.take_add_one]

/-- The search forwards finds the first line feed of what it goes over. -/
theorem lineFeedFrom?_eq {text row rest : Text} {index : Nat}
    (hdrop : text.drop index = row ++ lineFeed :: rest) (hrow : lineFeed ∉ row) :
    text.lineFeedFrom? index = some (index + row.length) := by
  have hnone : row.findIdx? (· == lineFeed) = none := List.idxOf?_eq_none_iff.mpr hrow
  rw [lineFeedFrom?, hdrop, List.idxOf?, List.findIdx?_append, hnone]
  simp [List.findIdx?_cons]

/-- What lies between an index and the stop of its row is the back of the row. -/
theorem take_rowStop (text : Text) (index : Nat) :
    text.take (text.rowStop index) = text.take index ++ text.rowBack index := by
  by_cases hfeed : lineFeed ∈ text.drop index
  · obtain ⟨row, rest, hdrop, hrow⟩ := List.eq_append_cons_of_mem hfeed
    have hback : text.rowBack index = row := by
      rw [rowBack, hdrop, takeWhile_append_of_not_mem hrow]
      simp
    rw [rowStop, lineFeedFrom?_eq hdrop hrow, Option.getD_some, List.take_add, hdrop,
      List.take_left, hback]
  · rw [rowStop, lineFeedFrom?, List.idxOf?_eq_none_iff.mpr hfeed, Option.map_none,
      Option.getD_none, List.take_length, rowBack, takeWhile_of_not_mem hfeed,
      List.take_append_drop]

/-- The two searches enclose the row around the index. -/
theorem rowBetween_eq (text : Text) (index : Nat) :
    text.rowBetween index = text.rowFront index ++ text.rowBack index := by
  have hlength := List.length_take_of_le (text.rowStart_le index)
  calc text.rowBetween index
      = (text.take (text.rowStart index) ++ (text.rowFront index ++ text.rowBack index)).drop
          (text.rowStart index) := by
        rw [rowBetween, take_rowStop, ← take_rowStart_append, List.append_assoc]
    _ = text.rowFront index ++ text.rowBack index := List.drop_left' hlength

/-! ## What is shown of a row -/

/-- A row is shown up to the carriage returns at its end, however many there are. -/
def ShownAs (row shown : Text) : Prop :=
  ∃ returns, row = shown ++ List.replicate returns carriageReturn ∧
    shown.getLast? ≠ some carriageReturn

theorem shownAs_trimEnd (row : Text) : row.ShownAs (trimEnd (· == carriageReturn) row) := by
  obtain ⟨returns, rest, hrow, hrest⟩ := exists_run carriageReturn row.reverse
  have hshown : trimEnd (· == carriageReturn) row = rest.reverse := by
    rw [trimEnd, hrow, dropWhile_run returns hrest]
  refine ⟨returns, ?_, ?_⟩
  · rw [hshown, ← List.reverse_replicate, ← List.reverse_append, ← hrow, List.reverse_reverse]
  · rw [hshown, List.getLast?_reverse]
    exact hrest

/-! ## The rows of the text -/

theorem length_splitOn (text : Text) :
    (text.splitOn lineFeed).length = text.count lineFeed + 1 := by
  induction text with
  | nil => rfl
  | cons c text ih =>
    rw [List.splitOn_cons_eq_if_modifyHead, List.count_cons]
    split
    · rw [List.length_cons, ih]
    · rw [List.length_modifyHead, ih]

/-- The last row of a text is the front of the row around its end. -/
theorem getLast?_splitOn (text : Text) :
    (text.splitOn lineFeed).getLast? = some (text.rowFront text.length) := by
  have hrow := getElem?_splitOn text text.length
  rw [List.take_length, rowBack, List.drop_length, List.takeWhile_nil, List.append_nil] at hrow
  rw [List.getLast?_eq_getElem?, length_splitOn, Nat.add_sub_cancel, hrow]

/-- The row around a line break is the row in front of it, and some of its carriage returns. -/
theorem rowAt_break (front rest : Text) (returns : Nat) :
    (front ++ (List.replicate returns carriageReturn ++ lineFeed :: rest)).rowAt front.length =
      trimEnd (· == carriageReturn) (front.rowFront front.length) := by
  have hfree : lineFeed ∉ List.replicate returns carriageReturn := fun h =>
    absurd (List.eq_of_mem_replicate h) (by decide)
  have hfront : (front ++ (List.replicate returns carriageReturn ++ lineFeed :: rest)).rowFront
      front.length = front.rowFront front.length := by
    rw [rowFront, List.take_left, rowFront, List.take_length]
  have hback : (front ++ (List.replicate returns carriageReturn ++ lineFeed :: rest)).rowBack
      front.length = List.replicate returns carriageReturn := by
    rw [rowBack, List.drop_left, takeWhile_append_of_not_mem hfree]
    simp
  calc (front ++ (List.replicate returns carriageReturn ++ lineFeed :: rest)).rowAt front.length
      = trimEnd (· == carriageReturn)
          (front.rowFront front.length ++ List.replicate returns carriageReturn) := by
        rw [rowAt_eq, hfront, hback]
    _ = trimEnd (· == carriageReturn) (front.rowFront front.length) :=
        trimEnd_append beq_of_mem_run _

/-- **Searching in place agrees with splitting.** For every index of a text and beyond it, what lies
between the two searches is a row of the text split at its line feeds, the one that comes after as
many rows as there are line feeds in front of the index, and `rowAt` shows it without the carriage
returns at its end. At a line feed, or at a carriage return in front of one, it shows the row that
the break ends. -/
theorem rowAt_split :
    (∀ (text : Text) (index : Nat),
      (text.splitOn lineFeed)[(text.take index).count lineFeed]? = some (text.rowBetween index) ∧
      (text.rowBetween index).ShownAs (text.rowAt index)) ∧
    ∀ (front rest : Text) (returns : Nat), ∃ row : Text,
      (front.splitOn lineFeed).getLast? = some row ∧
      row.ShownAs ((front ++ (List.replicate returns carriageReturn ++ lineFeed :: rest)).rowAt
        front.length) := by
  refine ⟨fun text index => ?_, fun front rest returns => ?_⟩
  · rw [rowAt_eq, ← rowBetween_eq]
    refine ⟨?_, shownAs_trimEnd _⟩
    rw [getElem?_splitOn, rowBetween_eq]
  · rw [rowAt_break]
    exact ⟨_, getLast?_splitOn front, shownAs_trimEnd _⟩

/-- Between two breaks the row is empty, and an index beyond the text is in the last row. -/
example : rowAt "a\r\n\r\nb".toList 3 = [] ∧ rowAt "a\r\n\r\nb".toList 9 = ['b'] := by decide

end ScriptLexer.Text
