import ScriptLexer.Proofs.Literal.OnePass
import ScriptLexer.Proofs.Text.Runs

set_option autoImplicit false

/-! # Writing string literals

A text in which every line feed stands behind a backslash can be written as a literal (`encode`): an
apostrophe gets a backslash, and a run of backslashes is doubled, except that the last backslash in
front of a line feed stays single, since it stands for itself there. The rule for literals reads the
text back, whatever stands around it, and the value of a literal is always a text of this kind. So
these texts are exactly the values that literals have (`Rule.scanAt_string_encode`). -/

namespace ScriptLexer

namespace Text

/-- Every line feed of the text stands behind a backslash. -/
def HasEscapedBreaks (text : Text) : Prop :=
  ∀ front rest, text = front ++ lineFeed :: rest → front.getLast? = some backslash

theorem hasEscapedBreaks_nil : HasEscapedBreaks [] := by
  intro front rest h
  simp at h

namespace HasEscapedBreaks

variable {front rest text : Text} {c : Char}

theorem of_append (h : HasEscapedBreaks (front ++ rest)) (hrest : rest.head? ≠ some lineFeed) :
    rest.HasEscapedBreaks := by
  rintro a b rfl
  have ha : a ≠ [] := by
    rintro rfl
    exact hrest rfl
  have hlast := h (front ++ a) b (List.append_assoc _ _ _).symm
  rwa [List.getLast?_append, Option.or_of_isSome (by simpa using ha)] at hlast

theorem of_append_cons (h : HasEscapedBreaks (front ++ c :: rest)) (hc : c ≠ backslash) :
    rest.HasEscapedBreaks := by
  rw [List.append_cons] at h
  refine h.of_append fun hhead => ?_
  -- a line feed right behind the character would stand behind no backslash
  obtain ⟨more, rfl⟩ := List.head?_eq_some_iff.mp hhead
  have hlast := h (front ++ [c]) more rfl
  rw [List.getLast?_concat] at hlast
  exact hc (Option.some.inj hlast)

theorem tail (h : HasEscapedBreaks (c :: rest)) (hc : c ≠ backslash) : rest.HasEscapedBreaks :=
  @of_append_cons [] rest c h hc

theorem cons (h : text.HasEscapedBreaks) (hc : c ≠ lineFeed) :
    HasEscapedBreaks (c :: text) := by
  intro front rest htext
  cases front with
  | nil => exact absurd (List.cons.inj htext).1 hc
  | cons d front =>
    have hlast := h front rest (List.cons.inj htext).2
    rw [List.getLast?_cons, hlast]
    rfl

theorem escaped (h : text.HasEscapedBreaks) : HasEscapedBreaks (backslash :: lineFeed :: text) := by
  intro front rest htext
  match front with
  | [] => exact absurd (List.cons.inj htext).1 (by decide)
  | [d] => rw [← (List.cons.inj htext).1]; rfl
  | d :: e :: front =>
    have hlast := h front rest (List.cons.inj (List.cons.inj htext).2).2
    rw [List.getLast?_cons, List.getLast?_cons, hlast]
    rfl

end HasEscapedBreaks

end Text

namespace Literal

/-- How many backslashes stand for a run of them in front of a text. -/
def writtenRun (count : Nat) (behind : Text) : Nat :=
  if behind.head? = some Text.lineFeed then 2 * count - 1 else 2 * count

/-- The text with its apostrophes and its runs of backslashes written as in a literal. -/
def protect : Text → Text
  | [] => []
  | c :: rest =>
    if c = Text.backslash then
      let run := c :: rest.takeWhile (· == Text.backslash)
      let behind := rest.dropWhile (· == Text.backslash)
      List.replicate (writtenRun run.length behind) Text.backslash ++ protect behind
    else if c = Text.apostrophe then Text.backslash :: Text.apostrophe :: protect rest
    else c :: protect rest
termination_by text => text.length
decreasing_by
  · have := (List.dropWhile_sublist (· == Text.backslash) (l := rest)).length_le
    simp only [List.length_cons]
    omega
  · simp
  · simp

/-- The literal that stands for a text. -/
def encode (text : Text) : Text := (protect text).inApostrophes

/-! ## The steps of the encoder -/

theorem protect_nil : protect [] = [] := by rw [protect]

theorem protect_apostrophe (rest : Text) :
    protect (Text.apostrophe :: rest) = Text.backslash :: Text.apostrophe :: protect rest := by
  rw [protect, if_neg (by decide), if_pos rfl]

theorem protect_cons {c : Char} (hbackslash : c ≠ Text.backslash) (hquote : c ≠ Text.apostrophe)
    (rest : Text) : protect (c :: rest) = c :: protect rest := by
  rw [protect, if_neg hbackslash, if_neg hquote]

/-- A run of backslashes that cannot be made longer. -/
theorem protect_run (count : Nat) {behind : Text} (hbehind : behind.head? ≠ some Text.backslash) :
    protect (List.replicate (count + 1) Text.backslash ++ behind) =
      List.replicate (writtenRun (count + 1) behind) Text.backslash ++ protect behind := by
  rw [List.replicate_succ, List.cons_append, protect, if_pos rfl]
  simp only [Text.takeWhile_run count hbehind, Text.dropWhile_run count hbehind, List.length_cons,
    List.length_replicate]

theorem protect_run_lineFeed (count : Nat) (more : Text) :
    protect (List.replicate (count + 1) Text.backslash ++ Text.lineFeed :: more) =
      List.replicate (2 * count) Text.backslash ++
        Text.backslash :: Text.lineFeed :: protect more := by
  have hcount : writtenRun (count + 1) (Text.lineFeed :: more) = 2 * count + 1 := rfl
  rw [protect_run count (by simp; decide), protect_cons (by decide) (by decide), hcount,
    List.replicate_succ', List.append_assoc, List.singleton_append]

/-! ## What is written for a text -/

/-- The characters can stand between apostrophes, and the text is what they stand for there. -/
structure Spells (written text : Text) : Prop where
  body : Body written
  value : unescape written = text

namespace Spells

variable {written text : Text} {c : Char}

theorem nil : Spells [] [] := ⟨Body.nil, rfl⟩

theorem plain (h : Spells written text) (hc : isPlain c = true) :
    Spells (c :: written) (c :: text) :=
  ⟨h.body.plain hc, by rw [unescape_cons (isPlain_iff.mp hc).2, h.value]⟩

theorem resolved (h : Spells written text) (hc : isProtected c = true) :
    Spells (Text.backslash :: c :: written) (c :: text) :=
  ⟨h.body.escape c, by rw [unescape_escape, if_pos hc, h.value]⟩

/-- A backslash in front of a character that needs none stands for itself. -/
theorem kept (h : Spells written text) (hc : isProtected c = false) :
    Spells (Text.backslash :: c :: written) (Text.backslash :: c :: text) :=
  ⟨h.body.escape c, by rw [unescape_escape, if_neg (by simp [hc]), h.value]⟩

theorem pairs (h : Spells written text) (count : Nat) :
    Spells (List.replicate (2 * count) Text.backslash ++ written)
      (List.replicate count Text.backslash ++ text) := by
  induction count with
  | zero => exact h
  | succ count ih => exact ih.resolved rfl

end Spells

/-- What is written for a text without bare line feeds stands for it. -/
theorem spells_protect {text : Text} (h : text.HasEscapedBreaks) : Spells (protect text) text := by
  -- one step for each run of backslashes, so the induction is on the length
  induction hlength : text.length using Nat.strong_induction_on generalizing text with
  | _ length ih =>
    subst hlength
    cases text with
    | nil =>
      rw [protect_nil]
      exact Spells.nil
    | cons c rest =>
      by_cases hbackslash : c = Text.backslash
      · subst hbackslash
        obtain ⟨count, behind, rfl, hbehind⟩ := Text.exists_run Text.backslash rest
        rw [← List.cons_append, ← List.replicate_succ] at h ih ⊢
        by_cases hfeed : behind.head? = some Text.lineFeed
        · -- the last backslash of the run makes a pair with the line feed
          obtain ⟨more, rfl⟩ := List.head?_eq_some_iff.mp hfeed
          have hmore := ih _ (by simp; omega) (h.of_append_cons (by decide)) rfl
          rw [protect_run_lineFeed, List.replicate_succ', List.append_assoc]
          exact (hmore.kept rfl).pairs count
        · have hmore := ih _ (by simp) (h.of_append hfeed) rfl
          rw [protect_run count hbehind, writtenRun, if_neg hfeed]
          exact hmore.pairs (count + 1)
      · have hmore := ih _ (by simp) (h.tail hbackslash) rfl
        by_cases hquote : c = Text.apostrophe
        · rw [hquote, protect_apostrophe]
          exact hmore.resolved rfl
        · have hfeed : c ≠ Text.lineFeed := by
            rintro rfl
            exact absurd (h [] rest rfl) (by simp)
          rw [protect_cons hbackslash hquote]
          exact hmore.plain (by simp [isPlain, isDelimiter, hbackslash, hquote, hfeed])

/-- What a body stands for has no bare line feeds. -/
theorem Body.hasEscapedBreaks {body : Text} (hbody : Body body) :
    (unescape body).HasEscapedBreaks := by
  induction hbody with
  | nil => exact Text.hasEscapedBreaks_nil
  | @plain c body hc _ ih =>
    rw [unescape_cons (isPlain_iff.mp hc).2]
    refine ih.cons ?_
    rintro rfl
    exact absurd hc (by decide)
  | @escape body c _ ih =>
    rw [unescape_escape]
    split
    next hprotected =>
      refine ih.cons ?_
      rintro rfl
      exact absurd hprotected (by decide)
    · by_cases hc : c = Text.lineFeed
      · rw [hc]
        exact ih.escaped
      · exact (ih.cons hc).cons (by decide)

end Literal

/-- **Writing and reading literals.** If every line feed of a text stands behind a backslash, the
rule for literals finds the whole written literal wherever it stands, and its value is the text
between apostrophes. The value of every literal is such a text between apostrophes. So these are
exactly the values that literals have. -/
theorem Rule.scanAt_string_encode (surface : Surface) :
    (∀ text : Text, text.HasEscapedBreaks → ∀ before after : Text,
      Rule.string.scanAt surface (before ++ Literal.encode text ++ after) before.length =
        .ok (some (.token (.string text.inApostrophes) (Literal.encode text)))) ∧
    (∀ (source : Text) (index : Nat) (token : Token) (lexeme : Text),
      Rule.string.scanAt surface source index = .ok (some (.token token lexeme)) →
        ∃ text : Text, token = .string text.inApostrophes ∧ text.HasEscapedBreaks) ∧
    ∀ value : Text,
      (∃ source index lexeme, Rule.string.scanAt surface source index =
        .ok (some (.token (.string value) lexeme))) ↔
      ∃ text : Text, value = text.inApostrophes ∧ text.HasEscapedBreaks := by
  have hencode : ∀ text : Text, text.HasEscapedBreaks → ∀ before after : Text,
      Rule.string.scanAt surface (before ++ Literal.encode text ++ after) before.length =
        .ok (some (.token (.string text.inApostrophes) (Literal.encode text))) := by
    intro text htext before after
    obtain ⟨hbody, hvalue⟩ := Literal.spells_protect htext
    have hwritten : Lexeme surface .string _ _ := Lexeme.string hbody
    rw [hvalue] at hwritten
    refine scanAt_string_eq_token_iff.mpr ⟨hwritten, after, ?_⟩
    show Literal.encode text ++ after = _
    rw [List.append_assoc, List.drop_left]
  have hvalue : ∀ (source : Text) (index : Nat) (token : Token) (lexeme : Text),
      Rule.string.scanAt surface source index = .ok (some (.token token lexeme)) →
        ∃ text : Text, token = .string text.inApostrophes ∧ text.HasEscapedBreaks := by
    intro source index token lexeme h
    obtain ⟨hwritten, -⟩ := scanAt_string_eq_token_iff.mp h
    cases hwritten with
    | string hbody => exact ⟨_, rfl, hbody.hasEscapedBreaks⟩
  refine ⟨hencode, hvalue, fun value => ⟨?_, ?_⟩⟩
  · rintro ⟨source, index, lexeme, h⟩
    obtain ⟨text, htoken, htext⟩ := hvalue _ _ _ _ h
    exact ⟨text, Token.string.inj htoken, htext⟩
  · rintro ⟨text, rfl, htext⟩
    exact ⟨_, _, _, hencode text htext [] []⟩

/-- A text with an escaped line feed behind a run of two backslashes, with an apostrophe, and with a
backslash at its end. -/
theorem Rule.scanAt_string_encode_run :
    Text.HasEscapedBreaks "\\\\\n'a\\".toList ∧
      Literal.encode "\\\\\n'a\\".toList = "'\\\\\\\n\\'a\\\\'".toList ∧
      Rule.string.scanAt Dialect.full.surface "x='\\\\\\\n\\'a\\\\'+'y".toList 2 =
        .ok (some (.token (.string "'\\\\\n'a\\'".toList) "'\\\\\\\n\\'a\\\\'".toList)) := by
  have hbreaks : Text.HasEscapedBreaks "\\\\\n'a\\".toList := by
    have hend : Text.HasEscapedBreaks "'a\\".toList :=
      ((Text.hasEscapedBreaks_nil.cons (by decide)).cons (by decide)).cons (by decide)
    exact hend.escaped.cons (by decide)
  have hwritten : Literal.encode "\\\\\n'a\\".toList = "'\\\\\\\n\\'a\\\\'".toList := by
    decide +kernel
  have hscan := (scanAt_string_encode Dialect.full.surface).1 _ hbreaks ['x', '='] "+'y".toList
  rw [hwritten] at hscan
  exact ⟨hbreaks, hwritten, hscan⟩

end ScriptLexer
