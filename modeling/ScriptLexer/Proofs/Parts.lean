import ScriptLexer.Proofs.Occurrence
import ScriptLexer.Proofs.Position

set_option autoImplicit false

/-! # Texts in two parts

What is known about a place in the second part of a text is told as if the part stood alone;
behind the first part it has another index and another position (`Position.behind`). Moving a
position and putting it behind a part can be done in either order, so segments in the second part
give the same tokens there as they give alone, only further on. If the segments of the whole are
those of the two parts (`Dialect.Joins`), this makes the tokens and the failure of the whole those
of the parts (`Joins.tokens`, `Joins.failure`). -/

namespace ScriptLexer

/-! ## Positions behind a part -/

namespace Position

/-- The position of a place behind a part of a text, given its position in what follows that
part: rows go on from the row in which the part ends, and in the first of them columns go on from
the column at which it ends. -/
def behind (p part : Position) : Position :=
  ⟨part.row + p.row - 1, if p.row = 1 then p.col + part.col - 1 else p.col⟩

theorem start_behind (part : Position) : start.behind part = part := by
  obtain ⟨row, col⟩ := part
  simp only [behind, start, if_pos, mk.injEq]
  omega

theorem right_behind (p part : Position) (cols : Int) :
    (p.right cols).behind part = (p.behind part).right cols := by
  simp only [behind, right, mk.injEq, true_and]
  split <;> omega

theorem down_behind {p : Position} (hp : 1 ≤ p.row) {rows : Int} (hrows : 0 < rows)
    (part : Position) : (p.down rows).behind part = (p.behind part).down rows := by
  simp only [behind, down, mk.injEq]
  omega

theorem past_behind {p : Position} (hp : 1 ≤ p.row) (text : Text) (part : Position) :
    (p.past text).behind part = (p.behind part).past text := by
  by_cases hbreaks : text.count Text.lineFeed = 0
  · simp only [past, if_pos hbreaks, right_behind]
  · have hrows : (0 : Int) < text.count Text.lineFeed := by omega
    simp only [past, if_neg hbreaks, right_behind, down_behind hp hrows]

theorem row_le_past (p : Position) (text : Text) : p.row ≤ (p.past text).row := by
  rw [row_past]
  omega

end Position

/-- A token behind a part of a text. -/
def LocatedToken.behind (located : LocatedToken) (part : Position) : LocatedToken :=
  ⟨located.token, located.position.behind part⟩

/-- An occurrence behind a part of a text that ends at a position and has a length. -/
def Occurrence.behind (occurrence : Occurrence) (part : Position) (length : Nat) : Occurrence :=
  ⟨occurrence.toLocatedToken.behind part, length + occurrence.start, occurrence.lexeme⟩

/-! ## Segments behind a part -/

namespace Segment

theorem row_le_advance (segment : Segment) (p : Position) : p.row ≤ (segment.advance p).row := by
  simp only [advance]
  split
  · simp only [Position.down]
    omega
  · exact p.row_le_past _
  · exact Int.le_refl _

theorem advance_behind (segment : Segment) {p : Position} (hp : 1 ≤ p.row) (part : Position) :
    (segment.advance p).behind part = segment.advance (p.behind part) := by
  simp only [advance]
  split
  · exact Position.down_behind hp Int.one_pos part
  · exact Position.past_behind hp _ part
  · exact Position.right_behind p part _

theorem row_le_advanceAll (segments : List Segment) (p : Position) :
    p.row ≤ (advanceAll p segments).row := by
  induction segments generalizing p with
  | nil => exact Int.le_refl _
  | cons segment segments ih =>
    exact Int.le_trans (segment.row_le_advance p) (ih (segment.advance p))

theorem advanceAll_behind (segments : List Segment) {p : Position} (hp : 1 ≤ p.row)
    (part : Position) :
    (advanceAll p segments).behind part = advanceAll (p.behind part) segments := by
  induction segments generalizing p with
  | nil => rfl
  | cons segment segments ih =>
    show (advanceAll (segment.advance p) segments).behind part =
      advanceAll (segment.advance (p.behind part)) segments
    rw [ih (Int.le_trans hp (segment.row_le_advance p)), segment.advance_behind hp]

/-- Behind a part, segments have the same occurrences further on. -/
theorem occurrences_behind (segments : List Segment) {p : Position} (hp : 1 ≤ p.row)
    (part : Position) (length index : Nat) :
    (occurrences p index segments).map (·.behind part length) =
      occurrences (p.behind part) (length + index) segments := by
  induction segments generalizing p index with
  | nil => rfl
  | cons segment segments ih =>
    have hrest := ih (Int.le_trans hp (segment.row_le_advance p)) (index + segment.lexeme.length)
    rw [segment.advance_behind hp, ← Nat.add_assoc] at hrest
    cases h : segment.token? with
    | none => simp only [occurrences, h, hrest]
    | some token =>
      simp only [occurrences, h, List.map_cons, hrest]
      rfl

theorem characters_append (a b : List Segment) :
    characters (a ++ b) = characters a ++ characters b := List.flatMap_append

theorem advanceAll_append (p : Position) (a b : List Segment) :
    advanceAll p (a ++ b) = advanceAll (advanceAll p a) b := List.foldl_append

theorem occurrences_append (p : Position) (index : Nat) (a b : List Segment) :
    occurrences p index (a ++ b) = occurrences p index a ++
      occurrences (advanceAll p a) (index + (characters a).length) b := by
  induction a generalizing p index with
  | nil => rfl
  | cons segment a ih =>
    have hrest := ih (segment.advance p) (index + segment.lexeme.length)
    rw [Nat.add_assoc, ← List.length_append, ← characters_cons] at hrest
    cases h : segment.token? with
    | none => simp only [List.cons_append, occurrences, h, hrest]; rfl
    | some token => simp only [List.cons_append, occurrences, h, hrest]; rfl

/-! ## Segments that say the same -/

/-- Both lists of segments have the same characters and the same occurrences, and a position moves
over both to the same place. They may differ in how spaces are divided among them. -/
structure Alike (a b : List Segment) : Prop where
  characters : characters a = characters b
  occurrences : ∀ p index, occurrences p index a = occurrences p index b
  advanceAll : ∀ p, advanceAll p a = advanceAll p b

theorem Alike.refl (a : List Segment) : Alike a a := ⟨rfl, fun _ _ => rfl, fun _ => rfl⟩

theorem Alike.trans {a b c : List Segment} (h : Alike a b) (h' : Alike b c) : Alike a c :=
  ⟨h.characters.trans h'.characters,
    fun p index => (h.occurrences p index).trans (h'.occurrences p index),
    fun p => (h.advanceAll p).trans (h'.advanceAll p)⟩

theorem Alike.cons {a b : List Segment} (h : Alike a b) (segment : Segment) :
    Alike (segment :: a) (segment :: b) := by
  refine ⟨?_, fun p index => ?_, fun p => h.advanceAll (segment.advance p)⟩
  · rw [characters_cons, characters_cons, h.characters]
  · simp only [Segment.occurrences, h.occurrences]

end Segment

/-! ## Lexing two parts -/

namespace Dialect

/-- The position at which lexing a text has come to its end, or to the construct at fault. -/
def endPosition (dialect : Dialect) (text : Text) : Position :=
  Segment.advanceAll Position.start (dialect.surface.cut text).segments

theorem one_le_row_endPosition (dialect : Dialect) (text : Text) :
    1 ≤ (dialect.endPosition text).row :=
  Segment.row_le_advanceAll _ Position.start

/-- The position of a failure is the end of the segments, moved past what its stop passes. -/
theorem lex_failure?_of_stop {dialect : Dialect} {text : Text} {stop : Stop}
    (hstop : (dialect.surface.cut text).stop? = some stop) :
    (dialect.lex text).failure? = some ⟨stop.fault, (dialect.endPosition text).past stop.passed,
      some (text.rowAt (dialect.lexedLength text + stop.passed.length))⟩ :=
  lex_failure?_eq_some_iff.mpr ⟨stop, hstop, rfl⟩

theorem lex_failure?_of_none {dialect : Dialect} {text : Text}
    (hstop : (dialect.surface.cut text).stop? = none) : (dialect.lex text).failure? = none := by
  show Option.map _ (dialect.surface.cut text).stop? = none
  rw [hstop]
  rfl

theorem lex_ok_iff {dialect : Dialect} {text : Text} :
    (dialect.lex text).ok = true ↔ (dialect.surface.cut text).stop? = none := by
  show ((dialect.surface.cut text).stop?.map _).isNone = true ↔ _
  simp

/-- The cut of a text goes over its two parts one after the other. -/
structure Joins (dialect : Dialect) (front rest whole : Text) : Prop where
  segments : Segment.Alike (dialect.surface.cut whole).segments
    ((dialect.surface.cut front).segments ++ (dialect.surface.cut rest).segments)
  stop? : (dialect.surface.cut whole).stop? = (dialect.surface.cut rest).stop?

namespace Joins

variable {dialect : Dialect} {front rest whole : Text}

/-- The occurrences in the whole are those in the front, and those in the rest further on. -/
theorem occurrences (h : dialect.Joins front rest whole) :
    dialect.occurrences whole = dialect.occurrences front ++
      (dialect.occurrences rest).map
        (·.behind (dialect.endPosition front) (dialect.lexedLength front)) := by
  have hrest := Segment.occurrences_behind (dialect.surface.cut rest).segments
    (p := Position.start) (Int.le_refl 1) (dialect.endPosition front) (dialect.lexedLength front) 0
  rw [Position.start_behind] at hrest
  have hlength : dialect.lexedLength front + 0 = 0 + dialect.lexedLength front := Nat.add_comm _ _
  rw [hlength] at hrest
  rw [Dialect.occurrences, h.segments.occurrences, Segment.occurrences_append]
  exact congrArg _ hrest.symm

/-- The tokens of the whole are those of the front, and those of the rest further on. -/
theorem tokens (h : dialect.Joins front rest whole) :
    (dialect.lex whole).tokens = (dialect.lex front).tokens ++
      (dialect.lex rest).tokens.map (·.behind (dialect.endPosition front)) := by
  rw [lex_tokens, lex_tokens, lex_tokens, h.occurrences, List.map_append, List.map_map,
    List.map_map]
  rfl

theorem lexedLength (h : dialect.Joins front rest whole) :
    dialect.lexedLength whole = dialect.lexedLength front + dialect.lexedLength rest := by
  rw [Dialect.lexedLength, h.segments.characters, Segment.characters_append, List.length_append]
  rfl

theorem endPosition (h : dialect.Joins front rest whole) :
    dialect.endPosition whole = (dialect.endPosition rest).behind (dialect.endPosition front) := by
  have hrest := Segment.advanceAll_behind (dialect.surface.cut rest).segments
    (p := Position.start) (Int.le_refl 1) (dialect.endPosition front)
  rw [Position.start_behind] at hrest
  rw [Dialect.endPosition, h.segments.advanceAll, Segment.advanceAll_append]
  exact hrest.symm

/-- The whole fails as the rest does, further on; the row that is shown is one of the whole. -/
theorem failure (h : dialect.Joins front rest whole) {stop : Stop}
    (hstop : (dialect.surface.cut rest).stop? = some stop) :
    (dialect.lex whole).failure? = some ⟨stop.fault,
      ((dialect.endPosition rest).past stop.passed).behind (dialect.endPosition front),
      some (whole.rowAt (dialect.lexedLength front +
        (dialect.lexedLength rest + stop.passed.length)))⟩ := by
  rw [lex_failure?_of_stop (h.stop?.trans hstop), h.endPosition, h.lexedLength, Nat.add_assoc,
    Position.past_behind (dialect.one_le_row_endPosition rest)]

end Joins

end Dialect

end ScriptLexer
