import ScriptLexer.Proofs.Segmentation

set_option autoImplicit false

/-! # Occurrences

Lexing gives tokens with positions, but not the places in the text that they come from. An
occurrence is a located token together with the index at which its lexeme starts; the tokens are
the occurrences without their indices (`Dialect.lex_tokens`). -/

namespace ScriptLexer

/-- A token with its position, and where its lexeme stands in the text. -/
structure Occurrence extends LocatedToken where
  /-- The index of the first character of the lexeme. -/
  start : Nat
  /-- The characters of the lexeme. -/
  lexeme : Text
deriving DecidableEq, Repr

/-- The index right after the lexeme. -/
def Occurrence.stop (occurrence : Occurrence) : Nat :=
  occurrence.start + occurrence.lexeme.length

namespace Segment

/-- The occurrences of tokens in segments of which the first starts at a position and an
index. -/
def occurrences (p : Position) (index : Nat) : List Segment → List Occurrence
  | [] => []
  | segment :: segments =>
    let rest := occurrences (segment.advance p) (index + segment.lexeme.length) segments
    match segment.token? with
    | some token => ⟨⟨token, p⟩, index, segment.lexeme⟩ :: rest
    | none => rest

/-- The located tokens are the occurrences without their indices. -/
theorem map_occurrences (p : Position) (index : Nat) (segments : List Segment) :
    (occurrences p index segments).map (·.toLocatedToken) = locate p segments := by
  induction segments generalizing p index with
  | nil => rfl
  | cons segment segments ih =>
    cases h : segment.token? with
    | none => simp [occurrences, locate, h, ih]
    | some token => simp [occurrences, locate, h, ih]

/-- An occurrence is the first one, or one of the segments that follow. -/
theorem mem_occurrences_cons {p : Position} {index : Nat} {segment : Segment}
    {segments : List Segment} {o : Occurrence}
    (h : o ∈ occurrences p index (segment :: segments)) :
    (∃ token, segment.token? = some token ∧ o = ⟨⟨token, p⟩, index, segment.lexeme⟩) ∨
      o ∈ occurrences (segment.advance p) (index + segment.lexeme.length) segments := by
  cases htoken : segment.token? with
  | none =>
    simp only [occurrences, htoken] at h
    exact Or.inr h
  | some token =>
    simp only [occurrences, htoken, List.mem_cons] at h
    rcases h with rfl | h
    · exact Or.inl ⟨token, rfl, rfl⟩
    · exact Or.inr h

variable {segments : List Segment}

/-- The lexeme of an occurrence stands at its index. -/
theorem lexeme_prefix_of_mem_occurrences (front rest : Text) {p : Position} {o : Occurrence}
    (h : o ∈ occurrences p front.length segments) :
    o.lexeme <+: (front ++ (characters segments ++ rest)).drop o.start := by
  induction segments generalizing front p with
  | nil => simp [occurrences] at h
  | cons segment segments ih =>
    rcases mem_occurrences_cons h with ⟨token, -, rfl⟩ | hmore
    · rw [List.drop_left, characters_cons, List.append_assoc]
      exact List.prefix_append _ _
    · rw [← List.length_append] at hmore
      have := ih _ hmore
      simpa only [characters_cons, List.append_assoc] using this

/-- An occurrence lies behind the start of the segments and not beyond their end. -/
theorem bounds_of_mem_occurrences {p : Position} {index : Nat} {o : Occurrence}
    (h : o ∈ occurrences p index segments) :
    index ≤ o.start ∧ o.stop ≤ index + (characters segments).length := by
  induction segments generalizing p index with
  | nil => simp [occurrences] at h
  | cons segment segments ih =>
    rw [characters_cons, List.length_append]
    rcases mem_occurrences_cons h with ⟨token, -, rfl⟩ | hmore
    · simp only [Occurrence.stop]
      omega
    · have := ih hmore
      omega

/-- Nothing in front of the segments belongs to their occurrences. -/
theorem any_occurrences_eq_false {holds : Occurrence → Bool} {index start : Nat}
    (hholds : ∀ o, holds o = true → o.start ≤ index) (hindex : index < start) (p : Position)
    (segments : List Segment) : (occurrences p start segments).any holds = false := by
  rw [List.any_eq_false]
  intro o ho htrue
  have hstart := (bounds_of_mem_occurrences ho).1
  exact absurd (hholds o htrue) (by omega)

end Segment

/-! ## Occurrences in a text -/

namespace Dialect

/-- The occurrences of tokens in a text, up to the failure if there is one. -/
def occurrences (dialect : Dialect) (text : Text) : List Occurrence :=
  Segment.occurrences Position.start 0 (dialect.surface.cut text).segments

/-- The index at which the construct at fault starts, or the end of the text. -/
def lexedLength (dialect : Dialect) (text : Text) : Nat :=
  (Segment.characters (dialect.surface.cut text).segments).length

theorem lex_tokens (dialect : Dialect) (text : Text) :
    (dialect.lex text).tokens = (dialect.occurrences text).map (·.toLocatedToken) :=
  (Segment.map_occurrences _ _ _).symm

/-- A failure is the stop of the cut, located behind the segments and what is passed. -/
theorem lex_failure?_eq_some_iff {dialect : Dialect} {text : Text} {failure : Diagnostic} :
    (dialect.lex text).failure? = some failure ↔
      ∃ stop, (dialect.surface.cut text).stop? = some stop ∧
        failure = ⟨stop.fault,
          (Segment.advanceAll Position.start (dialect.surface.cut text).segments).past stop.passed,
          some (text.rowAt (dialect.lexedLength text + stop.passed.length))⟩ := by
  show (dialect.surface.cut text).diagnostic? text = some failure ↔ _
  rw [Cut.diagnostic?, Option.map_eq_some_iff]
  constructor
  · rintro ⟨stop, hstop, rfl⟩
    exact ⟨stop, hstop, rfl⟩
  · rintro ⟨stop, hstop, rfl⟩
    exact ⟨stop, hstop, rfl⟩

/-- The segments and what they leave of the text make up the text. -/
theorem characters_append_drop (dialect : Dialect) (text : Text) :
    Segment.characters (dialect.surface.cut text).segments ++
      text.drop (dialect.lexedLength text) = text := by
  obtain ⟨rest, htext, -⟩ := (segmentation_cut dialect.surface text).exists_rest
  have hdrop : text.drop (dialect.lexedLength text) = rest :=
    (congrArg (List.drop _) htext).trans List.drop_left
  rw [hdrop]
  exact htext.symm

theorem take_lexedLength (dialect : Dialect) (text : Text) :
    text.take (dialect.lexedLength text) =
      Segment.characters (dialect.surface.cut text).segments :=
  (congrArg (List.take _) (dialect.characters_append_drop text)).symm.trans List.take_left

/-- Where the segments end, the stop tells what is wrong. -/
theorem ending_of_stop {dialect : Dialect} {text : Text} {stop : Stop}
    (hstop : (dialect.surface.cut text).stop? = some stop) :
    Ending dialect.surface (text.drop (dialect.lexedLength text)) (some stop) := by
  obtain ⟨rest, htext, hending⟩ := (segmentation_cut dialect.surface text).exists_rest
  have hdrop : text.drop (dialect.lexedLength text) = rest :=
    (congrArg (List.drop _) htext).trans List.drop_left
  rw [hdrop, ← hstop]
  exact hending

end Dialect

end ScriptLexer
