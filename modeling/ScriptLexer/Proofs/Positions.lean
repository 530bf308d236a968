import ScriptLexer.Proofs.Occurrence
import ScriptLexer.Proofs.Position
import ScriptLexer.Proofs.Reserved

set_option autoImplicit false

/-! # Exact positions

While a text is lexed, the position is moved segment by segment and is never computed from an
index. The file shows that it is nevertheless exact: the position of an occurrence, and the one
of a failure, is the one counted off the characters before its index, where every line feed
outside an identifier ends a row (`Dialect.lex_positions`). If no letter of the dialect is a
line feed, this is the true row and column of the character. -/

namespace ScriptLexer

/-! ## Rows within segments -/

/-- The token is an identifier. -/
def Token.isIdentifier : Token → Bool
  | .identifier _ => true
  | _ => false

namespace Segment

/-- The segment is an identifier. -/
def isIdentifier (segment : Segment) : Bool := segment.token?.any Token.isIdentifier

/-- For each character of the segment, whether it ends a row: it is a line feed, and the segment
is no identifier. -/
def rowEnds (segment : Segment) : List Bool :=
  segment.lexeme.map fun c => c == Text.lineFeed && !segment.isIdentifier

variable {surface : Surface} {segment : Segment}

theorem length_rowEnds (segment : Segment) : segment.rowEnds.length = segment.lexeme.length :=
  List.length_map _

theorem rowEnds_eq_map (h : segment.isIdentifier = false) :
    segment.rowEnds = segment.lexeme.map (· == Text.lineFeed) := by
  simp [rowEnds, h]

/-- The position moves over a segment as its characters ask for. -/
theorem Shaped.after_rowEnds (h : segment.Shaped surface) (before : List Bool) :
    Position.after (before ++ segment.rowEnds) = segment.advance (Position.after before) := by
  -- a segment without a character that ends a row
  have hright : (∀ ends ∈ segment.rowEnds, ends = false) →
      Position.after (before ++ segment.rowEnds) =
        (Position.after before).right segment.lexeme.length := by
    intro hfree
    rw [Position.after_append_right before hfree, length_rowEnds]
  cases h with
  | @spaces count _ =>
    refine hright fun ends hends => ?_
    obtain ⟨c, hc, rfl⟩ := List.mem_map.mp hends
    rw [List.eq_of_mem_replicate hc]
    rfl
  | lexeme hwritten =>
    cases hwritten with
    | identifier _ _ =>
      refine hright fun ends hends => ?_
      obtain ⟨c, hc, rfl⟩ := List.mem_map.mp hends
      simp [isIdentifier, Token.isIdentifier]
    | number hnumeral _ =>
      refine hright fun ends hends => ?_
      obtain ⟨c, hc, rfl⟩ := List.mem_map.mp hends
      have hne : c ≠ Text.lineFeed := by
        rintro rfl
        exact absurd (hnumeral.mem hc) (by decide)
      simp [hne]
    | operator _ op =>
      refine hright ?_
      cases op <;> decide
    | string _ =>
      rw [rowEnds_eq_map rfl]
      exact Position.after_append_past before _
    | lineFeed => exact Position.after_append_down before [] (by simp)
    | carriageReturn => exact Position.after_append_down before [false] (by simp)

end Segment

/-! ## Row ends and occurrences -/

/-- The character at the index belongs to the lexeme, which is an identifier. -/
def Occurrence.isNameAt (index : Nat) (occurrence : Occurrence) : Bool :=
  occurrence.token.isIdentifier && decide (occurrence.start ≤ index) &&
    decide (index < occurrence.stop)

theorem Occurrence.start_le_of_isNameAt {o : Occurrence} {index : Nat}
    (h : o.isNameAt index = true) : o.start ≤ index := by
  simp only [isNameAt, Bool.and_eq_true, decide_eq_true_eq] at h
  exact h.1.2

namespace Segment

variable {surface : Surface} {segments : List Segment}

/-- The invariant of the positions: behind some segments, the position is the one counted off
their characters. -/
theorem advanceAll_after (hshaped : ∀ segment ∈ segments, segment.Shaped surface)
    (before : List Bool) :
    advanceAll (Position.after before) segments =
      Position.after (before ++ segments.flatMap rowEnds) := by
  -- the characters passed so far are generalized: the position is always the one after them
  induction segments generalizing before with
  | nil => simp [advanceAll]
  | cons segment segments ih =>
    have hstep := (hshaped segment (by simp)).after_rowEnds before
    have hrest := ih (fun s hs => hshaped s (by simp [hs])) (before ++ segment.rowEnds)
    show advanceAll (segment.advance (Position.after before)) segments = _
    rw [← hstep, hrest, List.flatMap_cons, List.append_assoc]

/-- The position of an occurrence is the one counted off the characters before it. -/
theorem position_of_mem_occurrences (hshaped : ∀ segment ∈ segments, segment.Shaped surface)
    (before more : List Bool) {o : Occurrence}
    (h : o ∈ occurrences (Position.after before) before.length segments) :
    o.position = Position.after ((before ++ (segments.flatMap rowEnds ++ more)).take o.start) := by
  induction segments generalizing before with
  | nil => simp [occurrences] at h
  | cons segment segments ih =>
    rcases mem_occurrences_cons h with ⟨token, -, rfl⟩ | hrest
    · rw [List.take_left]
    · -- the segment has been passed: its characters join those before
      have hstep := (hshaped segment (by simp)).after_rowEnds before
      rw [← hstep, ← length_rowEnds, ← List.length_append] at hrest
      rw [ih (fun s hs => hshaped s (by simp [hs])) _ hrest]
      simp only [List.flatMap_cons, List.append_assoc]

/-- A character belongs to an identifier if that is the first segment, or one that follows. -/
theorem any_isNameAt_cons (p : Position) (start index : Nat) (segment : Segment)
    (segments : List Segment) :
    (occurrences p start (segment :: segments)).any (·.isNameAt (start + index)) =
      (segment.isIdentifier && decide (index < segment.lexeme.length) ||
        (occurrences (segment.advance p) (start + segment.lexeme.length) segments).any
          (·.isNameAt (start + index))) := by
  cases h : segment.token? with
  | none => simp [occurrences, isIdentifier, h]
  | some token => simp [occurrences, isIdentifier, h, Occurrence.isNameAt, Occurrence.stop]

/-- A character of the segments ends a row if it is a line feed and belongs to no identifier. -/
theorem getElem?_flatMap_rowEnds (p : Position) (start : Nat) (segments : List Segment)
    (index : Nat) :
    (segments.flatMap rowEnds)[index]? = ((characters segments)[index]?).map fun c =>
      c == Text.lineFeed && !(occurrences p start segments).any (·.isNameAt (start + index)) := by
  induction segments generalizing p start index with
  | nil => rfl
  | cons segment segments ih =>
    rw [List.flatMap_cons, characters_cons]
    simp only [any_isNameAt_cons]
    by_cases hindex : index < segment.lexeme.length
    · -- a character of the first segment: the occurrences that follow start behind it
      have hmore : (occurrences (segment.advance p) (start + segment.lexeme.length) segments).any
          (·.isNameAt (start + index)) = false :=
        any_occurrences_eq_false (fun _ => Occurrence.start_le_of_isNameAt)
          (Nat.add_lt_add_left hindex start) _ segments
      rw [List.getElem?_append_left (by rwa [length_rowEnds]), List.getElem?_append_left hindex,
        hmore, rowEnds, List.getElem?_map]
      simp [hindex]
    · have hle : segment.lexeme.length ≤ index := Nat.le_of_not_lt hindex
      have hshift : start + segment.lexeme.length + (index - segment.lexeme.length) =
          start + index := by omega
      have hrest := ih (segment.advance p) (start + segment.lexeme.length)
        (index - segment.lexeme.length)
      rw [hshift] at hrest
      rw [List.getElem?_append_right (by rwa [length_rowEnds]), List.getElem?_append_right hle,
        length_rowEnds, hrest]
      simp [hindex]

theorem length_flatMap_rowEnds (segments : List Segment) :
    (segments.flatMap rowEnds).length = (characters segments).length := by
  induction segments with
  | nil => rfl
  | cons segment segments ih =>
    rw [List.flatMap_cons, List.length_append, ih, length_rowEnds, characters_cons,
      List.length_append]

/-- Without a line feed among the letters, every line feed ends a row. -/
theorem Shaped.rowEnds_eq_map {segment : Segment} (h : segment.Shaped surface)
    (hletter : surface.isLetter Text.lineFeed = false) :
    segment.rowEnds = segment.lexeme.map (· == Text.lineFeed) := by
  cases hidentifier : segment.isIdentifier with
  | false => exact Segment.rowEnds_eq_map hidentifier
  | true =>
    refine List.map_congr_left fun c hc => ?_
    cases h with
    | spaces _ => simp [isIdentifier] at hidentifier
    | lexeme hwritten =>
      cases hwritten with
      | identifier _ hletters =>
        have hne : c ≠ Text.lineFeed := by
          rintro rfl
          exact absurd (hletters _ hc) (by simp [hletter])
        simp [hne]
      | _ => simp [isIdentifier, Token.isIdentifier] at hidentifier

theorem flatMap_rowEnds (hshaped : ∀ segment ∈ segments, segment.Shaped surface)
    (hletter : surface.isLetter Text.lineFeed = false) :
    segments.flatMap rowEnds = (characters segments).map (· == Text.lineFeed) := by
  induction segments with
  | nil => rfl
  | cons segment segments ih =>
    rw [List.flatMap_cons, (hshaped segment (by simp)).rowEnds_eq_map hletter,
      ih (fun s hs => hshaped s (by simp [hs])), characters_cons, List.map_append]

end Segment

/-! ## The positions that lexing gives -/

/-- The place in a text that a fault is pointed out at, the construct at fault starting at an
index: the unknown symbol itself; the end of the text, if a literal is not closed; the start of
the line break, if it breaks a literal. -/
inductive Fault.PointsAt (text : Text) (start : Nat) : Fault → Nat → Prop where
  | unknownSymbol {c : Char} {rest : Text} (htext : text.drop start = c :: rest) :
      Fault.PointsAt text start (.unknownSymbol [c]) start
  | unterminated {rest : Text} (htext : text.drop start = Text.apostrophe :: rest)
      (hrest : Literal.Unclosed rest) :
      Fault.PointsAt text start (.literal .unterminated) text.length
  | brokenAtLineFeed {body after : Text}
      (htext : text.drop start = Text.apostrophe :: (body ++ Text.lineFeed :: after))
      (hbody : Literal.Body body) (hlast : body.getLast? ≠ some Text.carriageReturn) :
      Fault.PointsAt text start (.literal .broken) (start + 1 + body.length)
  | brokenAtReturn {body after : Text}
      (htext : text.drop start =
        Text.apostrophe :: (body ++ Text.carriageReturn :: Text.lineFeed :: after))
      (hbody : Literal.Body (body ++ [Text.carriageReturn])) :
      Fault.PointsAt text start (.literal .broken) (start + 1 + body.length)

theorem Ending.pointsAt {surface : Surface} {rest : Text} {stop : Stop}
    (h : Ending surface rest (some stop)) (front : Text) :
    stop.fault.PointsAt (front ++ rest) front.length (front.length + stop.passed.length) := by
  have hindex : ∀ body : Text, front.length + (Text.apostrophe :: body).length =
      front.length + 1 + body.length := by
    intro body
    rw [List.length_cons]
    omega
  cases h with
  | unknownSymbol _ _ _ => exact Fault.PointsAt.unknownSymbol List.drop_left
  | unterminated _ hrest =>
    show Fault.PointsAt _ _ _ (front.length + _)
    rw [← List.length_append]
    exact Fault.PointsAt.unterminated List.drop_left hrest
  | @brokenAtLineFeed body after _ hbody hlast =>
    show Fault.PointsAt _ _ _ (front.length + (Text.apostrophe :: body).length)
    rw [hindex]
    exact Fault.PointsAt.brokenAtLineFeed List.drop_left hbody hlast
  | @brokenAtReturn body after _ hbody =>
    show Fault.PointsAt _ _ _ (front.length + (Text.apostrophe :: body).length)
    rw [hindex]
    exact Fault.PointsAt.brokenAtReturn List.drop_left hbody

theorem Ending.passed_prefix {surface : Surface} {rest : Text} {stop : Stop}
    (h : Ending surface rest (some stop)) : stop.passed <+: rest := by
  cases h with
  | unknownSymbol _ _ _ => exact List.nil_prefix
  | unterminated _ _ => exact List.prefix_rfl
  | brokenAtLineFeed _ _ _ => exact List.cons_prefix_cons.mpr ⟨rfl, List.prefix_append _ _⟩
  | brokenAtReturn _ _ => exact List.cons_prefix_cons.mpr ⟨rfl, List.prefix_append _ _⟩

namespace Dialect

/-- For each character of a text, whether it ends a row: it is a line feed and belongs to no
identifier. -/
def rowEnds (dialect : Dialect) (text : Text) : List Bool :=
  text.mapIdx fun index c =>
    c == Text.lineFeed && !(dialect.occurrences text).any (·.isNameAt index)

/-- The row ends of a text are those of its segments and, behind them, all line feeds. -/
theorem rowEnds_eq_append (dialect : Dialect) (text : Text) :
    dialect.rowEnds text = (dialect.surface.cut text).segments.flatMap Segment.rowEnds ++
      (text.drop (dialect.lexedLength text)).map (· == Text.lineFeed) := by
  have hlength : ((dialect.surface.cut text).segments.flatMap Segment.rowEnds).length =
      dialect.lexedLength text := Segment.length_flatMap_rowEnds _
  apply List.ext_getElem?
  intro index
  rw [rowEnds, List.getElem?_mapIdx]
  by_cases hindex : index < dialect.lexedLength text
  · have hleft := Segment.getElem?_flatMap_rowEnds Position.start 0
      (dialect.surface.cut text).segments index
    have hchar : (Segment.characters (dialect.surface.cut text).segments ++
        text.drop (dialect.lexedLength text))[index]? =
        (Segment.characters (dialect.surface.cut text).segments)[index]? :=
      List.getElem?_append_left hindex
    rw [characters_append_drop] at hchar
    rw [List.getElem?_append_left (by rwa [hlength]), hleft, Nat.zero_add, hchar]
    rfl
  · -- behind the segments there are no occurrences any more
    have hnone : (dialect.occurrences text).any (·.isNameAt index) = false := by
      rw [List.any_eq_false]
      intro o ho hname
      have hstop := (Segment.bounds_of_mem_occurrences ho).2
      rw [Nat.zero_add] at hstop
      simp only [Occurrence.isNameAt, Bool.and_eq_true, decide_eq_true_eq] at hname
      exact hindex (Nat.lt_of_lt_of_le hname.2 hstop)
    have hle : dialect.lexedLength text ≤ index := Nat.le_of_not_lt hindex
    rw [List.getElem?_append_right (by rwa [hlength]), hlength, List.getElem?_map,
      List.getElem?_drop, Nat.add_sub_of_le hle, hnone]
    simp

/-- If no letter is a line feed, every line feed of the text ends a row. -/
theorem rowEnds_eq_map {dialect : Dialect} (hletter : dialect.isLetter Text.lineFeed = false)
    (text : Text) : dialect.rowEnds text = text.map (· == Text.lineFeed) := by
  have hshaped := (segmentation_cut dialect.surface text).shaped
  rw [rowEnds_eq_append, Segment.flatMap_rowEnds hshaped hletter, ← List.map_append,
    characters_append_drop]

/-- The characters that end rows before the place that a failure is pointed out at. -/
theorem take_rowEnds {dialect : Dialect} {text : Text} {stop : Stop}
    (hstop : (dialect.surface.cut text).stop? = some stop) :
    (dialect.rowEnds text).take (dialect.lexedLength text + stop.passed.length) =
      (dialect.surface.cut text).segments.flatMap Segment.rowEnds ++
        stop.passed.map (· == Text.lineFeed) := by
  obtain ⟨more, hmore⟩ := Ending.passed_prefix (ending_of_stop hstop)
  have hlength : ((dialect.surface.cut text).segments.flatMap Segment.rowEnds).length =
      dialect.lexedLength text := Segment.length_flatMap_rowEnds _
  rw [rowEnds_eq_append, ← hmore, ← hlength, List.take_length_add_append, List.map_append,
    ← List.length_map (· == Text.lineFeed), List.take_left]

/-- **Every position is exact.** The tokens are the occurrences without their indices. The lexeme
of an occurrence stands at its index, and its position is the one counted off the characters
before that index; the same holds of a failure and the index that it points at. If no letter is
a line feed, as in the dialects that have names, these positions are the true rows and columns
in the text. -/
theorem lex_positions (dialect : Dialect) (text : Text) :
    (dialect.lex text).tokens = (dialect.occurrences text).map (·.toLocatedToken) ∧
    (∀ o ∈ dialect.occurrences text, o.lexeme <+: text.drop o.start ∧
      o.position = Position.after ((dialect.rowEnds text).take o.start)) ∧
    (∀ failure, (dialect.lex text).failure? = some failure →
      ∃ index, failure.fault.PointsAt text (dialect.lexedLength text) index ∧
        failure.position = Position.after ((dialect.rowEnds text).take index)) ∧
    (dialect.isLetter Text.lineFeed = false → ∀ index,
      Position.after ((dialect.rowEnds text).take index) = Position.ofIndex text index) ∧
    (∀ entry ∈ Dialect.names, entry.2.isLetter Text.lineFeed = false) := by
  have hshaped := (segmentation_cut dialect.surface text).shaped
  refine ⟨dialect.lex_tokens text, fun o ho => ⟨?_, ?_⟩, ?_, ?_, ?_⟩
  · have := Segment.lexeme_prefix_of_mem_occurrences [] (text.drop (dialect.lexedLength text)) ho
    rwa [List.nil_append, characters_append_drop] at this
  · rw [rowEnds_eq_append]
    exact Segment.position_of_mem_occurrences hshaped [] _ ho
  · intro failure hfailure
    obtain ⟨stop, hstop, rfl⟩ := lex_failure?_eq_some_iff.mp hfailure
    have hpoints := (ending_of_stop hstop).pointsAt
      (Segment.characters (dialect.surface.cut text).segments)
    rw [characters_append_drop] at hpoints
    refine ⟨_, hpoints, ?_⟩
    show ((Segment.advanceAll Position.start _).past stop.passed) =
      Position.after ((dialect.rowEnds text).take (dialect.lexedLength text + _))
    rw [take_rowEnds hstop, Position.after_append_past]
    exact congrArg (Position.past · stop.passed) (Segment.advanceAll_after hshaped [])
  · intro hletter index
    rw [rowEnds_eq_map hletter, Position.ofIndex_eq_after]
  · intro entry hentry
    exact isLetter_of_mem_names entry hentry Text.lineFeed (by decide)

end Dialect

end ScriptLexer
