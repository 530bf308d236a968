import ScriptLexer.Literal.Reading
import Mathlib.Data.List.Induction
import Mathlib.Data.List.TakeWhile

set_option autoImplicit false

/-! # Bodies of string literals

The body of a string literal is what stands between its two apostrophes. It is made of plain
characters and of pairs of a backslash and any character, so an apostrophe or a line feed can
only stand in it behind a backslash (`Body`). The reading of a literal goes from delimiter to
delimiter and judges each by the run of backslashes in front of it; the main result of the
file, `reads_read`, says that it nevertheless finds the longest body at the front of the text and
decides by the character that follows. -/

namespace ScriptLexer.Literal

/-- The character stands for itself in a body. -/
def isPlain (c : Char) : Bool := !isDelimiter c && c != Text.backslash

/-- The text can stand between the apostrophes of a literal. -/
inductive Body : Text → Prop where
  | nil : Body []
  | plain {c : Char} {body : Text} (hc : isPlain c = true) (hbody : Body body) : Body (c :: body)
  | escape {body : Text} (c : Char) (hbody : Body body) : Body (Text.backslash :: c :: body)

theorem isPlain_iff {c : Char} :
    isPlain c = true ↔ isDelimiter c = false ∧ c ≠ Text.backslash := by
  simp [isPlain]

theorem isDelimiter_iff {c : Char} :
    isDelimiter c = true ↔ c = Text.apostrophe ∨ c = Text.lineFeed := by
  simp [isDelimiter]

/-! ## Escaped positions

Whether a delimiter is escaped is decided by the parity of the backslashes just before it. The
same bit is computed from the left: it is set by a backslash that is not itself escaped. -/

/-- The bit after one more character. -/
def pendingAfter (pending : Bool) (c : Char) : Bool := c == Text.backslash && !pending

theorem isEscaped_concat (s : Text) (c : Char) :
    isEscaped (s ++ [c]) = pendingAfter (isEscaped s) c := by
  by_cases hc : c = Text.backslash
  · -- the run of backslashes at the end grows by one, which turns its parity
    subst hc
    simp only [isEscaped, pendingAfter, List.reverse_append, List.reverse_singleton,
      List.singleton_append, List.takeWhile_cons, BEq.rfl, if_true, List.length_cons, Bool.true_and]
    rcases Nat.mod_two_eq_zero_or_one
      (s.reverse.takeWhile (· == Text.backslash)).length with h | h
    · simp [Nat.add_mod, h]
    · simp [Nat.add_mod, h]
  · simp [isEscaped, pendingAfter, hc]

theorem isEscaped_eq_foldl (s : Text) : isEscaped s = s.foldl pendingAfter false := by
  induction s using List.reverseRecOn with
  | nil => rfl
  | append_singleton s c ih => rw [isEscaped_concat, ih, List.foldl_append]; rfl

theorem isEscaped_cons {c : Char} (hc : c ≠ Text.backslash) (s : Text) :
    isEscaped (c :: s) = isEscaped s := by
  simp [isEscaped_eq_foldl, pendingAfter, beq_false_of_ne hc]

theorem isEscaped_backslash_cons (c : Char) (s : Text) :
    isEscaped (Text.backslash :: c :: s) = isEscaped s := by
  simp [isEscaped_eq_foldl, pendingAfter]

theorem unescape_cons {c : Char} (hc : c ≠ Text.backslash) (s : Text) :
    unescape (c :: s) = c :: unescape s := by
  rw [unescape]
  intro _ _ h
  exact absurd h hc

theorem unescape_escape (c : Char) (s : Text) :
    unescape (Text.backslash :: c :: s) =
      if isProtected c then c :: unescape s else Text.backslash :: c :: unescape s := rfl

/-! ## The longest body at the front of a text -/

/-- The longest body at the front of a text, and what follows it. -/
def splitBody : Text → Text × Text
  | [] => ([], [])
  | '\\' :: c :: rest => ('\\' :: c :: (splitBody rest).1, (splitBody rest).2)
  | c :: rest => if isPlain c then (c :: (splitBody rest).1, (splitBody rest).2) else ([], c :: rest)

theorem splitBody_plain {c : Char} (hc : isPlain c = true) (rest : Text) :
    splitBody (c :: rest) = (c :: (splitBody rest).1, (splitBody rest).2) := by
  have hne := (isPlain_iff.mp hc).2
  rw [splitBody, if_pos hc]
  intro _ _ h
  exact absurd h hne

theorem splitBody_escape (c : Char) (rest : Text) :
    splitBody (Text.backslash :: c :: rest) =
      (Text.backslash :: c :: (splitBody rest).1, (splitBody rest).2) := rfl

theorem splitBody_delimiter {c : Char} (hc : isDelimiter c = true) (rest : Text) :
    splitBody (c :: rest) = ([], c :: rest) := by
  rcases isDelimiter_iff.mp hc with rfl | rfl <;> rfl

theorem splitBody_backslash : splitBody [Text.backslash] = ([], [Text.backslash]) := rfl

theorem splitBody_append {body : Text} (hbody : Body body) (t : Text) :
    splitBody (body ++ t) = (body ++ (splitBody t).1, (splitBody t).2) := by
  induction hbody with
  | nil => rfl
  | plain hc _ ih => rw [List.cons_append, splitBody_plain hc, ih]; rfl
  | escape c _ ih => rw [List.cons_append, List.cons_append, splitBody_escape, ih]; rfl

theorem splitBody_body {body : Text} (hbody : Body body) : splitBody body = (body, []) := by
  simpa [splitBody] using splitBody_append hbody []

theorem splitBody_body_delimiter {body : Text} (hbody : Body body) {d : Char}
    (hd : isDelimiter d = true) (after : Text) :
    splitBody (body ++ d :: after) = (body, d :: after) := by
  rw [splitBody_append hbody, splitBody_delimiter hd, List.append_nil]

/-- Characters without a delimiter are a body, or a body and an open escape sequence; the parity
of the backslashes at their end tells which. -/
theorem body_or_open (s : Text) (hs : ∀ c ∈ s, isDelimiter c = false) :
    (isEscaped s = false ∧ Body s) ∨
      (isEscaped s = true ∧ ∃ body, Body body ∧ s = body ++ [Text.backslash]) := by
  induction s using splitBody.induct with
  | case1 => exact Or.inl ⟨rfl, Body.nil⟩
  | case2 c rest ih =>
    rw [isEscaped_backslash_cons]
    rcases ih (fun e he => hs e (by simp [he])) with ⟨hesc, hbody⟩ | ⟨hesc, body, hbody, rfl⟩
    · exact Or.inl ⟨hesc, hbody.escape c⟩
    · exact Or.inr ⟨hesc, _, hbody.escape c, rfl⟩
  | case3 c rest _ hplain ih =>
    rw [isEscaped_cons (isPlain_iff.mp hplain).2]
    rcases ih (fun e he => hs e (by simp [he])) with ⟨hesc, hbody⟩ | ⟨hesc, body, hbody, rfl⟩
    · exact Or.inl ⟨hesc, hbody.plain hplain⟩
    · exact Or.inr ⟨hesc, _, hbody.plain hplain, rfl⟩
  | case4 c rest hpair hplain =>
    -- neither plain nor a delimiter nor the start of a pair: a single backslash at the end
    have hc : c = Text.backslash := by simpa [isPlain, hs c (by simp)] using hplain
    cases rest with
    | nil => exact Or.inr ⟨by rw [hc]; rfl, [], Body.nil, by rw [hc]; rfl⟩
    | cons d rest => exact absurd rfl (hpair d rest hc)

/-- Where two bodies end at delimiters in one text, they are the same. -/
theorem Body.append_inj {a b x y : Text} {d e : Char} (ha : Body a) (hb : Body b)
    (hd : isDelimiter d = true) (he : isDelimiter e = true) (h : a ++ d :: x = b ++ e :: y) :
    a = b ∧ d = e ∧ x = y := by
  have hsplit := congrArg splitBody h
  rw [splitBody_body_delimiter ha hd, splitBody_body_delimiter hb he] at hsplit
  simpa using hsplit

theorem Body.append {a b : Text} (ha : Body a) (hb : Body b) : Body (a ++ b) := by
  induction ha with
  | nil => exact hb
  | plain hc _ ih => exact ih.plain hc
  | escape c _ ih => exact ih.escape c

theorem Body.unescape_append {a : Text} (ha : Body a) (t : Text) :
    unescape (a ++ t) = unescape a ++ unescape t := by
  induction ha with
  | nil => rfl
  | plain hc _ ih =>
    have hne := (isPlain_iff.mp hc).2
    rw [List.cons_append, unescape_cons hne, unescape_cons hne, ih, List.cons_append]
  | escape c _ ih =>
    rw [List.cons_append, List.cons_append, unescape_escape, unescape_escape, ih]
    split <;> rfl

/-! ## What reading finds -/

/-- The text can go on as the inside of a literal, but nothing ends it. -/
def Unclosed (s : Text) : Prop := ∃ body, Body body ∧ (s = body ∨ s = body ++ [Text.backslash])

theorem Unclosed.after {s : Text} (h : Unclosed s) {a : Text} (ha : Body a) :
    Unclosed (a ++ s) := by
  obtain ⟨body, hbody, rfl | rfl⟩ := h
  · exact ⟨_, ha.append hbody, Or.inl rfl⟩
  · exact ⟨_, ha.append hbody, Or.inr (List.append_assoc a body _).symm⟩

/-- No delimiter follows the longest body of an unclosed text. -/
theorem Unclosed.splitBody_ne {s : Text} (h : Unclosed s) {d : Char}
    (hd : isDelimiter d = true) (after : Text) : (splitBody s).2 ≠ d :: after := by
  obtain ⟨body, hbody, rfl | rfl⟩ := h
  · rw [splitBody_body hbody]
    exact (List.cons_ne_nil _ _).symm
  · rw [splitBody_append hbody, splitBody_backslash]
    rintro ⟨⟩
    exact absurd hd (by decide)

/-- What the reading of a text is, by the longest body at its front and by what follows it. The
slices of a literal make up its body and the closing apostrophe, and their escape sequences can
be resolved slice by slice. -/
inductive Reads : Text → Reading → Prop where
  | closed {body : Text} {slices : List Text} (hbody : Body body)
      (hslices : slices.flatten = body ++ [Text.apostrophe])
      (hvalue : slices.flatMap unescape = unescape body ++ [Text.apostrophe]) (after : Text) :
      Reads (body ++ Text.apostrophe :: after) (.closed slices)
  | broken {body : Text} (hbody : Body body) (after : Text) :
      Reads (body ++ Text.lineFeed :: after) (.faulty .broken (beforeBreak body))
  | unterminated {text : Text} (htext : Unclosed text) : Reads text (.faulty .unterminated text)

theorem beforeBreak_append {s : Text} (hs : s.getLast? ≠ some Text.carriageReturn) (t : Text) :
    beforeBreak (s ++ t) = s ++ beforeBreak t := by
  by_cases ht : t = []
  · subst ht
    simp [beforeBreak, hs]
  · have hlast : (s ++ t).getLast? = t.getLast? := by
      rw [List.getLast?_append, Option.or_of_isSome (by simpa using ht)]
    simp only [beforeBreak, hlast]
    split
    · exact List.dropLast_append_of_ne_nil ht
    · rfl

/-- One more slice in front, which ends with an escaped delimiter. -/
theorem Reads.after {rest : Text} {reading : Reading} (h : Reads rest reading) {slice : Text}
    (hslice : Body slice) (hlast : slice.getLast? ≠ some Text.carriageReturn) :
    Reads (slice ++ rest) (reading.after slice) := by
  cases h with
  | @closed body slices hbody hslices hvalue after =>
    rw [← List.append_assoc]
    refine Reads.closed (hslice.append hbody) ?_ ?_ after
    · rw [List.flatten_cons, hslices, List.append_assoc]
    · rw [List.flatMap_cons, hvalue, hslice.unescape_append, List.append_assoc]
  | @broken body hbody after =>
    rw [← List.append_assoc, Reading.after, ← beforeBreak_append hlast]
    exact Reads.broken (hslice.append hbody) after
  | unterminated hrest => exact Reads.unterminated (hrest.after hslice)

/-- The step of the reading where no delimiter is left. -/
theorem read_free {s : Text} (hs : ∀ c ∈ s, isDelimiter c = false) :
    read s = .faulty .unterminated s := by
  have hdrop : s.dropWhile (!isDelimiter ·) = [] :=
    List.dropWhile_eq_nil_iff.mpr (fun c hc => by simp [hs c hc])
  rw [read]
  split
  · rfl
  next heq => rw [hdrop] at heq; cases heq

/-- The step of the reading at the first delimiter. -/
theorem read_delimiter {s : Text} (hs : ∀ c ∈ s, isDelimiter c = false) {d : Char}
    (hd : isDelimiter d = true) (rest : Text) :
    read (s ++ d :: rest) =
      if isEscaped s then (read rest).after (s ++ [d])
      else if d = Text.apostrophe then .closed [s ++ [d]]
      else .faulty .broken (beforeBreak s) := by
  have htake : (s ++ d :: rest).takeWhile (!isDelimiter ·) = s := by
    rw [List.takeWhile_append_of_pos (fun c hc => by simp [hs c hc])]
    simp [hd]
  have hdrop : (s ++ d :: rest).dropWhile (!isDelimiter ·) = d :: rest := by
    rw [List.dropWhile_append_of_pos (fun c hc => by simp [hs c hc])]
    simp [hd]
  rw [read]
  split
  next heq => rw [hdrop] at heq; cases heq
  next heq =>
    rw [hdrop] at heq
    cases heq
    rw [htake]

/-- A text has no delimiter, or it has a first one. -/
theorem free_or_delimiter (text : Text) :
    (∀ c ∈ text, isDelimiter c = false) ∨
      ∃ s d rest, text = s ++ d :: rest ∧ (∀ c ∈ s, isDelimiter c = false) ∧
        isDelimiter d = true := by
  induction text with
  | nil => exact Or.inl (by simp)
  | cons c text ih =>
    cases hc : isDelimiter c with
    | true => exact Or.inr ⟨[], c, text, rfl, by simp, hc⟩
    | false =>
      rcases ih with hfree | ⟨s, d, rest, rfl, hs, hd⟩
      · exact Or.inl (by simpa [hc] using hfree)
      · exact Or.inr ⟨c :: s, d, rest, rfl, by simpa [hc] using hs, hd⟩

/-- **Reading finds the longest body.** The jumps from delimiter to delimiter lead to the
character after the longest body at the front of the text. -/
theorem reads_read (text : Text) : Reads text (read text) := by
  rcases free_or_delimiter text with hfree | ⟨s, d, rest, rfl, hs, hd⟩
  · rw [read_free hfree]
    rcases body_or_open text hfree with ⟨-, hbody⟩ | ⟨-, body, hbody, rfl⟩
    · exact Reads.unterminated ⟨_, hbody, Or.inl rfl⟩
    · exact Reads.unterminated ⟨_, hbody, Or.inr rfl⟩
  · rw [read_delimiter hs hd]
    rcases body_or_open s hs with ⟨hesc, hbody⟩ | ⟨hesc, body, hbody, rfl⟩
    · rw [hesc, if_neg (by simp)]
      rcases isDelimiter_iff.mp hd with rfl | rfl
      · rw [if_pos rfl]
        refine Reads.closed hbody (by simp) ?_ rest
        simp [hbody.unescape_append, unescape]
      · rw [if_neg (by decide)]
        exact Reads.broken hbody rest
    · -- the delimiter is escaped: the slice is a body, and reading goes on behind it
      have hslice : Body (body ++ [Text.backslash] ++ [d]) := by
        rw [List.append_assoc]
        exact hbody.append (Body.nil.escape d)
      have hlast : (body ++ [Text.backslash] ++ [d]).getLast? ≠ some Text.carriageReturn := by
        rw [List.getLast?_concat]
        rcases isDelimiter_iff.mp hd with rfl | rfl <;> decide
      have hrest := (reads_read rest).after hslice hlast
      rw [hesc, if_pos rfl]
      simpa using hrest
termination_by text.length
decreasing_by simp [*]; omega

/-! ## Reading a given body -/

/-- Behind a body, the delimiter alone decides what is read. -/
theorem Reads.of_delimiter {body : Text} (hbody : Body body) {d : Char}
    (hd : isDelimiter d = true) {after : Text} {reading : Reading}
    (h : Reads (body ++ d :: after) reading) :
    (d = Text.apostrophe ∧ ∃ slices, reading = .closed slices ∧
      slices.flatten = body ++ [Text.apostrophe] ∧
      slices.flatMap unescape = unescape body ++ [Text.apostrophe]) ∨
    (d = Text.lineFeed ∧ reading = .faulty .broken (beforeBreak body)) := by
  -- the longest body at the front is the same for the given split and for the one that was read
  have hsplit := splitBody_body_delimiter hbody hd after
  generalize body ++ d :: after = text at h hsplit
  cases h with
  | closed hbody' hslices hvalue after' =>
    rw [splitBody_body_delimiter hbody' rfl] at hsplit
    simp only [Prod.mk.injEq, List.cons.injEq] at hsplit
    obtain ⟨rfl, rfl, rfl⟩ := hsplit
    exact Or.inl ⟨rfl, _, rfl, hslices, hvalue⟩
  | broken hbody' after' =>
    rw [splitBody_body_delimiter hbody' rfl] at hsplit
    simp only [Prod.mk.injEq, List.cons.injEq] at hsplit
    obtain ⟨rfl, rfl, rfl⟩ := hsplit
    exact Or.inr ⟨rfl, rfl⟩
  | unterminated htext => exact absurd (congrArg Prod.snd hsplit) (htext.splitBody_ne hd after)

/-- A body and an apostrophe are read as a literal. -/
theorem read_body_apostrophe {body : Text} (hbody : Body body) (after : Text) :
    ∃ slices, read (body ++ Text.apostrophe :: after) = .closed slices ∧
      lexeme slices = Text.apostrophe :: (body ++ [Text.apostrophe]) ∧
      value slices = Text.apostrophe :: (unescape body ++ [Text.apostrophe]) := by
  rcases (reads_read _).of_delimiter hbody (d := Text.apostrophe) rfl with
    ⟨-, slices, hread, hslices, hvalue⟩ | ⟨h, -⟩
  · exact ⟨slices, hread, by rw [lexeme, hslices], by rw [value, hvalue]⟩
  · exact absurd h (by decide)

/-- A body and a line feed are a broken literal. -/
theorem read_body_lineFeed {body : Text} (hbody : Body body) (after : Text) :
    read (body ++ Text.lineFeed :: after) = .faulty .broken (beforeBreak body) := by
  rcases (reads_read _).of_delimiter hbody (d := Text.lineFeed) rfl with ⟨h, -⟩ | ⟨-, hread⟩
  · exact absurd h (by decide)
  · exact hread

/-- A literal is unterminated exactly if nothing ends it up to the end of the text. -/
theorem read_eq_unterminated_iff {s passed : Text} :
    read s = .faulty .unterminated passed ↔ Unclosed s ∧ passed = s := by
  have hreads := reads_read s
  constructor
  · intro hread
    rw [hread] at hreads
    cases hreads with
    | unterminated hs => exact ⟨hs, rfl⟩
  · rintro ⟨hs, rfl⟩
    generalize hread : read passed = reading at hreads
    cases hreads with
    | closed hbody _ _ after =>
      have hne := hs.splitBody_ne (d := Text.apostrophe) rfl after
      rw [splitBody_body_delimiter hbody rfl] at hne
      exact absurd rfl hne
    | broken hbody after =>
      have hne := hs.splitBody_ne (d := Text.lineFeed) rfl after
      rw [splitBody_body_delimiter hbody rfl] at hne
      exact absurd rfl hne
    | unterminated _ => rfl

end ScriptLexer.Literal
