import ScriptLexer.Proofs.Extension
import ScriptLexer.Proofs.Parts

set_option autoImplicit false

/-! # Boundaries

Lexing looks at a text where a run of spaces or a lexeme starts, and once more where it comes to
its end (`Dialect.boundaries`). The text can be cut at each of these places
(`Segmentation.split`): a lexeme is the longest one also if the text ends behind it, and no rule
looks back at what is in front of it. So the part in front of a boundary lexes without a failure
to the tokens that start there, and what follows them, failure included, is what the part behind
the boundary gives (`Dialect.lex_boundary`). -/

namespace ScriptLexer

variable {surface : Surface}

/-! ## Segmentations are made of segmentations -/

/-- The segments of a text can be parted anywhere: those in front are the whole segmentation of
their own characters, and those behind are the segmentation of what is left of the text. -/
theorem Segmentation.split {text : Text} {front back : List Segment} {stop? : Option Stop}
    (h : Segmentation surface text ⟨front ++ back, stop?⟩) :
    Segmentation surface (Segment.characters front) ⟨front, none⟩ ∧
      ∃ rest, text = Segment.characters front ++ rest ∧
        Segmentation surface rest ⟨back, stop?⟩ := by
  induction front generalizing text with
  | nil => exact ⟨Segmentation.stop Ending.done, text, rfl, h⟩
  | cons segment front ih =>
    generalize hcut : (⟨segment :: front ++ back, stop?⟩ : Cut) = cut at h
    cases h with
    | stop _ => simp at hcut
    | @spaces count rest cut hcount hspace hrest =>
      obtain ⟨segments, stop?⟩ := cut
      simp only [Cut.after, List.cons_append, Cut.mk.injEq, List.cons.injEq] at hcut
      obtain ⟨⟨rfl, rfl⟩, rfl⟩ := hcut
      obtain ⟨hfront, back', rfl, hback⟩ := ih hrest
      refine ⟨Segmentation.spaces hcount ?_ hfront, back', ?_, hback⟩
      · -- the run of spaces is as long as can be also if the text ends earlier
        intro hhead
        exact hspace (by rw [List.head?_append, hhead]; rfl)
      · rw [Segment.characters_cons, List.append_assoc]
    | @lexeme rule token lexeme rest cut hspace hmunch hrest =>
      obtain ⟨segments, stop?⟩ := cut
      simp only [Cut.after, List.cons_append, Cut.mk.injEq, List.cons.injEq] at hcut
      obtain ⟨⟨rfl, rfl⟩, rfl⟩ := hcut
      obtain ⟨hfront, back', rfl, hback⟩ := ih hrest
      rw [← List.append_assoc] at hspace hmunch
      refine ⟨Segmentation.lexeme ?_ (hmunch.of_append ?_) hfront, back', ?_, hback⟩
      · obtain ⟨c, first, rfl, -⟩ := hmunch.written.starts
        exact hspace
      · rw [List.length_append]
        omega
      · rw [Segment.characters_cons, List.append_assoc]

/-! ## Where segments start -/

namespace Segment

/-- The indices at which segments start, of which the first starts at an index, and the index at
which they end. -/
def boundaries (index : Nat) : List Segment → List Nat
  | [] => [index]
  | segment :: segments => index :: boundaries (index + segment.lexeme.length) segments

/-- At a boundary, some of the segments are passed. -/
theorem exists_of_mem_boundaries {index p : Nat} {segments : List Segment}
    (h : p ∈ boundaries index segments) :
    ∃ front back, segments = front ++ back ∧ p = index + (characters front).length := by
  induction segments generalizing index with
  | nil =>
    simp only [boundaries, List.mem_singleton] at h
    exact ⟨[], [], rfl, h⟩
  | cons segment segments ih =>
    simp only [boundaries, List.mem_cons] at h
    rcases h with rfl | h
    · exact ⟨[], segment :: segments, rfl, rfl⟩
    · obtain ⟨front, back, rfl, rfl⟩ := ih h
      refine ⟨segment :: front, back, rfl, ?_⟩
      rw [characters_cons, List.length_append]
      omega

/-- An occurrence has a character. -/
theorem start_lt_stop_of_mem_occurrences {segments : List Segment}
    (hshaped : ∀ segment ∈ segments, segment.Shaped surface) {p : Position} {index : Nat}
    {o : Occurrence} (h : o ∈ occurrences p index segments) : o.start < o.stop := by
  induction segments generalizing p index with
  | nil => simp [occurrences] at h
  | cons segment segments ih =>
    rcases mem_occurrences_cons h with ⟨token, -, rfl⟩ | hmore
    · have := List.length_pos_iff.mpr (hshaped segment (by simp)).lexeme_ne_nil
      simp only [Occurrence.stop]
      omega
    · exact ih (fun s hs => hshaped s (by simp [hs])) hmore

end Segment

namespace Dialect

variable {dialect : Dialect} {text : Text} {p : Nat}

/-- The indices that lexing a text comes to: where a run of spaces or a lexeme starts, and where
the construct at fault starts or, if there is none, the end of the text. -/
def boundaries (dialect : Dialect) (text : Text) : List Nat :=
  Segment.boundaries 0 (dialect.surface.cut text).segments

/-- At a boundary, the cut of the text goes over its two parts, and the first is without fault. -/
theorem joins_of_mem_boundaries (hp : p ∈ dialect.boundaries text) :
    (dialect.surface.cut (text.take p)).stop? = none ∧
      dialect.lexedLength (text.take p) = p ∧
      dialect.Joins (text.take p) (text.drop p) text := by
  obtain ⟨front, back, hsegments, hlength⟩ := Segment.exists_of_mem_boundaries hp
  have hcut : dialect.surface.cut text = ⟨front ++ back, (dialect.surface.cut text).stop?⟩ := by
    rw [← hsegments]
  have hsegmentation := segmentation_cut dialect.surface text
  rw [hcut] at hsegmentation
  obtain ⟨hfront, rest, htext, hback⟩ := hsegmentation.split
  have htake : text.take p = Segment.characters front := by
    rw [hlength, Nat.zero_add, htext, List.take_left]
  have hdrop : text.drop p = rest := by
    rw [hlength, Nat.zero_add, htext, List.drop_left]
  rw [htake, hdrop]
  refine ⟨by rw [hfront.cut_eq], by rw [lexedLength, hfront.cut_eq, hlength, Nat.zero_add], ?_, ?_⟩
  · rw [hfront.cut_eq, hback.cut_eq, hsegments]
    exact Segment.Alike.refl _
  · rw [hback.cut_eq]

/-- The occurrences in front of a boundary are those of the first part. -/
theorem filter_lt_boundary (hp : p ∈ dialect.boundaries text) :
    (dialect.occurrences text).filter (·.start < p) = dialect.occurrences (text.take p) := by
  obtain ⟨-, hlength, hjoins⟩ := joins_of_mem_boundaries hp
  have hshaped := (segmentation_cut dialect.surface (text.take p)).shaped
  have hfront : ∀ o ∈ dialect.occurrences (text.take p), o.start < p := by
    intro o ho
    have hstop := (Segment.bounds_of_mem_occurrences ho).2
    rw [Nat.zero_add] at hstop
    exact Nat.lt_of_lt_of_le (Segment.start_lt_stop_of_mem_occurrences hshaped ho)
      (Nat.le_trans hstop (Nat.le_of_eq hlength))
  rw [hjoins.occurrences, hlength, List.filter_append,
    List.filter_eq_self.mpr (by simpa using hfront), List.filter_eq_nil_iff.mpr, List.append_nil]
  simp only [List.mem_map, decide_eq_true_eq]
  rintro _ ⟨o, -, rfl⟩
  simp [Occurrence.behind]

/-- The occurrences from a boundary on are those of the second part, further on. -/
theorem filter_le_boundary (hp : p ∈ dialect.boundaries text) :
    (dialect.occurrences text).filter (p ≤ ·.start) =
      (dialect.occurrences (text.drop p)).map
        (·.behind (dialect.endPosition (text.take p)) p) := by
  obtain ⟨-, hlength, hjoins⟩ := joins_of_mem_boundaries hp
  have hfront : ∀ o ∈ dialect.occurrences (text.take p), ¬p ≤ o.start := by
    intro o ho
    rw [← filter_lt_boundary hp, List.mem_filter] at ho
    simpa using ho.2
  rw [hjoins.occurrences, hlength, List.filter_append,
    List.filter_eq_nil_iff.mpr (by simpa using hfront), List.filter_eq_self.mpr, List.nil_append]
  simp only [List.mem_map, decide_eq_true_eq]
  rintro _ ⟨o, -, rfl⟩
  simp [Occurrence.behind]

/-- **A text can be cut at every boundary.** The tokens are the occurrences without their indices.
The part in front of a boundary is lexed without a failure, and its tokens are those that start in
front of the boundary. The tokens from the boundary on and the failure are those of the part behind
it, where every position is put behind the end of the first part. -/
theorem lex_boundary (hp : p ∈ dialect.boundaries text) :
    (dialect.lex text).tokens = (dialect.occurrences text).map (·.toLocatedToken) ∧
    (dialect.lex (text.take p)).ok = true ∧
    (dialect.lex (text.take p)).tokens =
      ((dialect.occurrences text).filter (·.start < p)).map (·.toLocatedToken) ∧
    ((dialect.occurrences text).filter (p ≤ ·.start)).map (·.toLocatedToken) =
      (dialect.lex (text.drop p)).tokens.map (·.behind (dialect.endPosition (text.take p))) ∧
    (dialect.lex text).failure?.map (fun failure => (failure.fault, failure.position)) =
      (dialect.lex (text.drop p)).failure?.map fun failure =>
        (failure.fault, failure.position.behind (dialect.endPosition (text.take p))) := by
  obtain ⟨hnone, -, hjoins⟩ := joins_of_mem_boundaries hp
  refine ⟨dialect.lex_tokens text, lex_ok_iff.mpr hnone, ?_, ?_, ?_⟩
  · rw [filter_lt_boundary hp, lex_tokens]
  · rw [filter_le_boundary hp, lex_tokens, List.map_map, List.map_map]
    rfl
  · cases hstop : (dialect.surface.cut (text.drop p)).stop? with
    | none => rw [lex_failure?_of_none hstop, lex_failure?_of_none (hjoins.stop?.trans hstop)]; rfl
    | some stop => rw [hjoins.failure hstop, lex_failure?_of_stop hstop]; rfl

/-- A boundary in the second row, behind a literal that goes on from the first: the row and the
column of the unknown symbol are those of the part behind it, moved there. -/
theorem lex_boundary_second_row :
    9 ∈ full.boundaries "x 'a\\\nb' y #z".toList ∧
      (full.lex "x 'a\\\nb' ".toList).ok = true ∧
      full.endPosition "x 'a\\\nb' ".toList = ⟨2, 4⟩ ∧
      (full.lex "y #z".toList).tokens = [⟨.identifier ['y'], ⟨1, 1⟩⟩] ∧
      ((full.occurrences "x 'a\\\nb' y #z".toList).filter (9 ≤ ·.start)).map (·.toLocatedToken) =
        [⟨.identifier ['y'], ⟨2, 4⟩⟩] ∧
      (full.lex "x 'a\\\nb' y #z".toList).failure?.map
          (fun failure => (failure.fault, failure.position)) =
        some (.unknownSymbol ['#'], ⟨2, 6⟩) := by
  have hp : 9 ∈ full.boundaries "x 'a\\\nb' y #z".toList := by decide +kernel
  obtain ⟨-, hok, -, htokens, hfailure⟩ := lex_boundary hp
  refine ⟨hp, hok, by decide +kernel, by decide +kernel, htokens.trans ?_, hfailure.trans ?_⟩
  · decide +kernel
  · decide +kernel

end Dialect

end ScriptLexer
