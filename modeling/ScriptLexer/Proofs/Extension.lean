import ScriptLexer.Proofs.Occurrence

set_option autoImplicit false

/-! # Texts that are continued

Lexing looks at most two characters beyond the end of a lexeme, so a lexeme with two characters
behind it does not depend on what follows these (`munch_append_iff`). Two runs, over a text and
over a longer text that starts with it, therefore go in step until fewer than two characters of
the shorter text are left behind a lexeme. The result, `lex_append`, is that a continuation
leaves all that is settled as it is: tokens that end two characters before its start, literals
broken by a line break, and unknown symbols with another character behind them. -/

namespace ScriptLexer

variable {surface : Surface} {rule : Rule} {token token' : Token} {text lexeme lexeme' : Text}

/-! ## One scan -/

namespace Rule

theorem Applies.append (h : rule.Applies surface text) (more : Text) :
    rule.Applies surface (text ++ more) := by
  obtain ⟨token, lexeme, hwritten, hfront⟩ := h
  exact ⟨token, lexeme, hwritten, hfront.trans (List.prefix_append _ _)⟩

/-- Whether a rule other than the one for string literals applies is seen in two characters. -/
theorem Applies.of_append {more : Text} (h : rule.Applies surface (text ++ more))
    (hrule : rule ≠ .string) (hlength : 2 ≤ text.length) : rule.Applies surface text := by
  obtain ⟨token, lexeme, hwritten, hfront⟩ := h
  have hpos : 0 < lexeme.length := List.length_pos_iff.mpr hwritten.ne_nil
  obtain ⟨m, token', -, hm, -, htake⟩ := hwritten.exists_take hrule Nat.one_pos hpos
  refine ⟨token', lexeme.take m, htake, ?_⟩
  have hmore : lexeme.take m <+: text ++ more := (List.take_prefix m lexeme).trans hfront
  refine List.prefix_of_prefix_length_le hmore (List.prefix_append _ _) ?_
  have := List.length_take_le m lexeme
  omega

end Rule

/-- The token and the lexeme that the rules pick are determined by the text. -/
theorem Munch.unique {rule' : Rule} (h : Munch surface rule text token lexeme)
    (h' : Munch surface rule' text token' lexeme') : token = token' ∧ lexeme = lexeme' := by
  have hscan := Surface.scan_eq_token_iff.mpr ⟨rule, h⟩
  rw [Surface.scan_eq_token_iff.mpr ⟨rule', h'⟩] at hscan
  obtain ⟨rfl, rfl⟩ := Scan.token.inj (Option.some.inj hscan)
  exact ⟨rfl, rfl⟩

/-- A lexeme stays the longest one, if the text has two characters behind it. -/
theorem Rule.Longest.append (h : rule.Longest surface text token lexeme)
    (hlength : lexeme.length + 2 ≤ text.length) (more : Text) :
    rule.Longest surface (text ++ more) token lexeme := by
  have hfront : lexeme <+: text ++ more := h.front.trans (List.prefix_append _ _)
  refine ⟨h.written, hfront, fun token' lexeme' hwritten hfront' => ?_⟩
  by_contra hlonger
  -- a literal never goes on behind another one, so it needs no look at the text
  have hrule : rule ≠ .string := by
    rintro rfl
    obtain ⟨rest, rfl⟩ : lexeme <+: lexeme' :=
      List.prefix_of_prefix_length_le hfront hfront' (by omega)
    cases rest with
    | nil => simp at hlonger
    | cons c rest => exact h.written.continues hwritten
  -- cut down to one or two characters more, the longer lexeme would stand in the text already
  obtain ⟨m, token'', hlow, hhigh, hm, htake⟩ :=
    hwritten.exists_take hrule (Nat.succ_pos lexeme.length) (by omega)
  have hmore : lexeme'.take m <+: text ++ more := (List.take_prefix m lexeme').trans hfront'
  have htext : lexeme'.take m <+: text := by
    refine List.prefix_of_prefix_length_le hmore (List.prefix_append _ _) ?_
    have := List.length_take_le m lexeme'
    omega
  have hle := h.longest token'' (lexeme'.take m) htake htext
  rw [List.length_take_of_le hm] at hle
  omega

/-- What the rules pick in a text they also pick in a beginning of it that holds the lexeme. -/
theorem Munch.of_append {more : Text} (h : Munch surface rule (text ++ more) token lexeme)
    (hlength : lexeme.length ≤ text.length) : Munch surface rule text token lexeme := by
  have hfront : lexeme <+: text :=
    List.prefix_of_prefix_length_le h.front (List.prefix_append _ _) hlength
  exact ⟨⟨h.written, hfront, fun token' lexeme' hwritten hfront' =>
      h.longest token' lexeme' hwritten (hfront'.trans (List.prefix_append _ _))⟩,
    fun earlier hrank happlies => h.first earlier hrank (happlies.append more)⟩

/-- **The rules look two characters beyond a lexeme.** If there are two characters behind it,
what follows them does not matter. -/
theorem munch_append_iff (hlength : lexeme.length + 2 ≤ text.length) (more : Text) :
    Munch surface rule (text ++ more) token lexeme ↔ Munch surface rule text token lexeme := by
  constructor
  · intro h
    exact h.of_append (by omega)
  · intro h
    refine ⟨h.toLongest.append hlength more, fun earlier hrank happlies => ?_⟩
    by_cases hstring : earlier = .string
    · subst hstring
      exact (h.applies.append more).not_string hrank happlies
    · exact h.first earlier hrank (happlies.of_append hstring (by omega))

/-! ## Endings -/

theorem Ending.not_applies {stop? : Option Stop} (h : Ending surface text stop?) :
    ¬rule.Applies surface text := by
  cases h with
  | done =>
    intro happlies
    obtain ⟨c, rest, hnil, -⟩ := happlies.starts
    simp at hnil
  | unknownSymbol _ _ hblocked => exact hblocked rule
  | unterminated hblocked _ => exact hblocked rule
  | brokenAtLineFeed hblocked _ _ => exact hblocked rule
  | brokenAtReturn hblocked _ => exact hblocked rule

theorem Ending.head?_ne_space {stop? : Option Stop} (h : Ending surface text stop?) :
    text.head? ≠ some Text.space := by
  have hquote : ∀ rest : Text, (Text.apostrophe :: rest).head? ≠ some Text.space := by
    intro rest hhead
    exact absurd (Option.some.inj hhead) (by decide)
  cases h with
  | done => simp
  | unknownSymbol hspace _ _ => simpa using hspace
  | unterminated _ _ => exact hquote _
  | brokenAtLineFeed _ _ _ => exact hquote _
  | brokenAtReturn _ _ => exact hquote _

/-- No string literal stands where one is broken by a line feed. -/
theorem Rule.not_applies_string_of_broken {body : Text} (hbody : Literal.Body body)
    (after : Text) :
    ¬Rule.string.Applies surface (Text.apostrophe :: (body ++ Text.lineFeed :: after)) := by
  intro happlies
  obtain ⟨token, lexeme, hscan⟩ := Rule.scan_of_applies happlies
  rw [Rule.scan, Rule.scanString_apostrophe, Literal.read_body_lineFeed hbody after] at hscan
  simp at hscan

/-- An ending other than an open literal stays one, if two characters of the text are left. -/
theorem Ending.append {stop : Stop} (h : Ending surface text (some stop))
    (hfault : stop.fault ≠ .literal .unterminated) (hlength : 2 ≤ text.length) (more : Text) :
    Ending surface (text ++ more) (some stop) := by
  have hblocked : ¬Rule.string.Applies surface (text ++ more) →
      ∀ rule : Rule, ¬rule.Applies surface (text ++ more) := by
    intro hstring rule happlies
    by_cases hrule : rule = .string
    · subst hrule
      exact hstring happlies
    · exact h.not_applies (happlies.of_append hrule hlength)
  cases h with
  | unknownSymbol hspace hquote _ =>
    refine Ending.unknownSymbol hspace hquote (hblocked fun happlies => ?_)
    obtain ⟨c, rest, heq, hc⟩ := happlies.starts
    exact hquote ((List.cons.inj heq).1.trans hc)
  | unterminated _ _ => exact absurd rfl hfault
  | @brokenAtLineFeed body after _ hbody hlast =>
    rw [List.cons_append, List.append_assoc, List.cons_append] at hblocked ⊢
    exact Ending.brokenAtLineFeed
      (hblocked (Rule.not_applies_string_of_broken hbody (after ++ more))) hbody hlast
  | @brokenAtReturn body after _ hbody =>
    rw [List.cons_append, List.append_assoc, List.cons_append, List.cons_append] at hblocked ⊢
    have hstring : ¬Rule.string.Applies surface _ :=
      Rule.not_applies_string_of_broken hbody (after ++ more)
    rw [List.append_assoc, List.singleton_append] at hstring
    exact Ending.brokenAtReturn (hblocked hstring) hbody

/-! ## Runs that stop early -/

/-- A step over a lexeme stays as it is, if there are two characters behind it. -/
theorem Segmentation.lexeme_append {rest more : Text} {cut : Cut}
    (hspace : (lexeme ++ rest).head? ≠ some Text.space)
    (hmunch : Munch surface rule (lexeme ++ rest) token lexeme) (hlength : 2 ≤ rest.length)
    (h : Segmentation surface (rest ++ more) cut) :
    Segmentation surface (lexeme ++ rest ++ more) (cut.after ⟨lexeme, some token⟩) := by
  have hmore : Munch surface rule (lexeme ++ rest ++ more) token lexeme := by
    refine (munch_append_iff ?_ more).mpr hmunch
    rw [List.length_append]
    omega
  rw [List.append_assoc] at hmore ⊢
  refine Segmentation.lexeme ?_ hmore h
  obtain ⟨c, first, rfl, -⟩ := hmunch.written.starts
  exact hspace

/-- A run that stops two characters before the end, and not at an open literal, stays as it is. -/
theorem Segmentation.append {cut : Cut} (h : Segmentation surface text cut)
    (hlength : (Segment.characters cut.segments).length + 2 ≤ text.length)
    (hfault : ∀ stop, cut.stop? = some stop → stop.fault ≠ .literal .unterminated)
    (more : Text) : Segmentation surface (text ++ more) cut := by
  -- the bound holds for every part of the run, since each segment takes as much off both sides
  induction h with
  | @stop text stop? hending =>
    have hlength : 2 ≤ text.length := by simpa [Segment.characters] using hlength
    cases stop? with
    | none =>
      obtain rfl := hending.eq_nil_iff.mpr rfl
      simp at hlength
    | some stop => exact Segmentation.stop (hending.append (hfault stop rfl) hlength more)
  | @spaces count rest cut hcount hrest _ ih =>
    simp only [Cut.segments_after, Segment.characters_cons, List.length_append] at hlength
    rw [List.append_assoc]
    refine Segmentation.spaces hcount ?_ (ih (by omega) hfault)
    cases rest with
    | nil =>
      simp only [List.length_nil, List.length_replicate] at hlength
      omega
    | cons c rest => exact hrest
  | @lexeme rule token lexeme rest cut hspace hmunch _ ih =>
    simp only [Cut.segments_after, Segment.characters_cons, List.length_append] at hlength
    exact Segmentation.lexeme_append hspace hmunch (by omega) (ih (by omega) hfault)

/-! ## Settled occurrences -/

/-- The lexeme ends two characters before the length, or earlier. -/
def Occurrence.isSettled (length : Nat) (occurrence : Occurrence) : Bool :=
  decide (occurrence.stop + 2 ≤ length)

/-- No occurrence is settled, if the first segment already ends too late. -/
theorem Segment.filter_isSettled_cons {p : Position} {index length : Nat} {segment : Segment}
    {segments : List Segment} (h : length < index + segment.lexeme.length + 2) :
    (occurrences p index (segment :: segments)).filter (·.isSettled length) = [] := by
  rw [List.filter_eq_nil_iff]
  intro o ho hsettled
  have hstop : o.start + o.lexeme.length + 2 ≤ length := of_decide_eq_true hsettled
  rcases mem_occurrences_cons ho with ⟨token, -, rfl⟩ | hmore
  · have hle : index + segment.lexeme.length + 2 ≤ length := hstop
    omega
  · have := bounds_of_mem_occurrences hmore
    omega

/-- In the continued text nothing is settled, if no lexeme has two characters behind it in the
text itself. -/
theorem Segment.filter_isSettled_cut (hspace : text.head? ≠ some Text.space)
    (hshort : ∀ rule token lexeme, Munch surface rule text token lexeme →
      text.length < lexeme.length + 2) (more : Text) (p : Position) (index : Nat) :
    (occurrences p index (surface.cut (text ++ more)).segments).filter
      (·.isSettled (index + text.length)) = [] := by
  have hcut := segmentation_cut surface (text ++ more)
  generalize hwhole : text ++ more = whole at hcut ⊢
  generalize surface.cut whole = cut at hcut ⊢
  cases hcut with
  | stop _ => rfl
  | @spaces count rest cut hcount _ _ =>
    -- a text that starts with no space is empty, if its continuation starts with one
    cases text with
    | nil =>
      refine filter_isSettled_cons ?_
      simp only [List.length_nil, List.length_replicate]
      omega
    | cons c text =>
      cases count with
      | zero => omega
      | succ count => exact absurd (congrArg some (List.cons.inj hwhole).1) hspace
  | @lexeme rule token lexeme rest cut _ hmunch _ =>
    refine filter_isSettled_cons ?_
    -- a lexeme that ends early enough would be one of the text itself
    by_contra hlong
    have hlength : lexeme.length + 2 ≤ text.length := by
      simp only [not_lt] at hlong
      omega
    rw [← hwhole] at hmunch
    have := hshort rule token lexeme ((munch_append_iff hlength more).mp hmunch)
    omega

/-! ## Spaces at the front -/

/-- Spaces at the front move the occurrences behind them, and leave them as they are. -/
theorem Segment.occurrences_replicate_append (count : Nat) (text : Text) (p : Position)
    (index : Nat) :
    occurrences p index (surface.cut (List.replicate count Text.space ++ text)).segments =
      occurrences (p.right count) (index + count) (surface.cut text).segments := by
  -- a run of spaces that is as long as can be
  have hrun : ∀ (count : Nat) (rest : Text), rest.head? ≠ some Text.space →
      ∀ (p : Position) (index : Nat),
      occurrences p index (surface.cut (List.replicate count Text.space ++ rest)).segments =
        occurrences (p.right count) (index + count) (surface.cut rest).segments := by
    intro count rest hrest p index
    cases count with
    | zero => simp [Position.right]
    | succ count =>
      rw [Surface.cut_spaces (Nat.succ_pos count) hrest]
      show occurrences (p.right (List.replicate _ _).length)
        (index + (List.replicate _ _).length) _ = _
      rw [List.length_replicate]
  obtain ⟨more, rest, rfl, hrest⟩ := Text.exists_run Text.space text
  have hright : (p.right count).right more = p.right (count + more : Nat) := by
    simp [Position.right, Int.add_assoc]
  rw [← List.append_assoc, List.replicate_append_replicate, hrun _ _ hrest, hrun _ _ hrest,
    hright, Nat.add_assoc]

/-! ## Two runs in step -/

/-- A continuation changes no settled occurrence and adds none. -/
theorem Segmentation.filter_isSettled {cut : Cut} (h : Segmentation surface text cut)
    (more : Text) (p : Position) (index : Nat) :
    (Segment.occurrences p index cut.segments).filter (·.isSettled (index + text.length)) =
      (Segment.occurrences p index (surface.cut (text ++ more)).segments).filter
        (·.isSettled (index + text.length)) := by
  -- along the shorter text; the longer run starts at the same position and index in each case
  induction h generalizing p index with
  | stop hending =>
    refine (Segment.filter_isSettled_cut hending.head?_ne_space ?_ more p index).symm
    intro rule token lexeme hmunch
    exact absurd hmunch.applies hending.not_applies
  | @spaces count rest cut hcount hrest _ ih =>
    rw [List.append_assoc, Segment.occurrences_replicate_append]
    have := ih (p.right count) (index + count)
    rw [List.length_append, List.length_replicate, ← Nat.add_assoc, ← this]
    show (Segment.occurrences (p.right (List.replicate _ _).length)
      (index + (List.replicate _ _).length) _).filter _ = _
    rw [List.length_replicate]
  | @lexeme rule token lexeme rest cut hspace hmunch _ ih =>
    by_cases hlength : 2 ≤ rest.length
    · -- the two runs take the same step
      have hstep := Segmentation.lexeme_append hspace hmunch hlength
        (segmentation_cut surface (rest ++ more))
      have hrest := ih ((⟨lexeme, some token⟩ : Segment).advance p) (index + lexeme.length)
      rw [hstep.cut_eq, List.length_append, ← Nat.add_assoc]
      show List.filter _ (_ :: Segment.occurrences _ _ cut.segments) =
        List.filter _ (_ :: Segment.occurrences _ _ (surface.cut (rest ++ more)).segments)
      rw [List.filter_cons, List.filter_cons, hrest]
    · -- neither run finds anything that is settled
      have hshort : (lexeme ++ rest).length < lexeme.length + 2 := by
        rw [List.length_append]
        omega
      rw [Segment.filter_isSettled_cut hspace ?_ more p index]
      · refine Segment.filter_isSettled_cons ?_
        show index + (lexeme ++ rest).length < index + lexeme.length + 2
        omega
      · intro rule' token' lexeme' hmunch'
        obtain ⟨-, rfl⟩ := hmunch.unique hmunch'
        exact hshort

/-! ## The row that is shown -/

/-- The row around an index does not change, if a line feed that ends it is there already. -/
theorem Text.rowAt_append {index : Nat} (h : lineFeed ∈ text.drop index) (more : Text) :
    (text ++ more).rowAt index = text.rowAt index := by
  have hle : index ≤ text.length := by
    by_contra hlt
    rw [List.drop_of_length_le (by omega)] at h
    simp at h
  rw [rowAt, List.take_append_of_le_length hle, List.drop_append_of_le_length hle,
    takeWhile_append_of_mem h, rowAt]

/-- The line feed that breaks a literal stands behind what is passed. -/
theorem Ending.lineFeed_mem {stop : Stop} (h : Ending surface text (some stop))
    (hfault : stop.fault = .literal .broken) :
    2 ≤ text.length ∧ Text.lineFeed ∈ text.drop stop.passed.length := by
  cases h with
  | unknownSymbol _ _ _ => simp at hfault
  | unterminated _ _ => simp at hfault
  | @brokenAtLineFeed body after _ _ _ =>
    rw [← List.cons_append, List.drop_left]
    exact ⟨by simp only [List.length_append, List.length_cons]; omega, by simp⟩
  | @brokenAtReturn body after _ _ =>
    rw [← List.cons_append, List.drop_left]
    exact ⟨by simp only [List.length_append, List.length_cons]; omega, by simp⟩

namespace Dialect

/-- The cut of a text that fails early enough is the one of every continuation. -/
theorem cut_append {dialect : Dialect} {text : Text} {stop : Stop}
    (hstop : (dialect.surface.cut text).stop? = some stop)
    (hfault : stop.fault ≠ .literal .unterminated)
    (hlength : dialect.lexedLength text + 2 ≤ text.length) (more : Text) :
    dialect.surface.cut (text ++ more) = dialect.surface.cut text := by
  refine ((segmentation_cut dialect.surface text).append hlength ?_ more).cut_eq
  intro stop' hstop'
  rw [hstop] at hstop'
  obtain rfl := Option.some.inj hstop'
  exact hfault

/-- **A continuation changes nothing that is settled.** The tokens are the occurrences without
their indices. A text and its continuation have the same occurrences as far as these end two
characters before the end of the text; a literal that is broken in the text makes the lexing of
both the same; and an unknown symbol with another character behind it stops both at the same
place, with the same tokens before it. -/
theorem lex_append (dialect : Dialect) (text more : Text) :
    (∀ whole, (dialect.lex whole).tokens =
      (dialect.occurrences whole).map (·.toLocatedToken)) ∧
    (dialect.occurrences (text ++ more)).filter (·.isSettled text.length) =
      (dialect.occurrences text).filter (·.isSettled text.length) ∧
    (∀ failure, (dialect.lex text).failure? = some failure →
      failure.fault = .literal .broken → dialect.lex (text ++ more) = dialect.lex text) ∧
    (∀ failure symbol, (dialect.lex text).failure? = some failure →
      failure.fault = .unknownSymbol symbol → dialect.lexedLength text + 2 ≤ text.length →
      (dialect.lex (text ++ more)).tokens = (dialect.lex text).tokens ∧
      ∃ failure', (dialect.lex (text ++ more)).failure? = some failure' ∧
        failure'.fault = failure.fault ∧ failure'.position = failure.position) := by
  have hcut := segmentation_cut dialect.surface text
  refine ⟨dialect.lex_tokens, ?_, ?_, ?_⟩
  · have := hcut.filter_isSettled more Position.start 0
    rw [Nat.zero_add] at this
    exact this.symm
  · intro failure hfailure hbroken
    obtain ⟨stop, hstop, rfl⟩ := lex_failure?_eq_some_iff.mp hfailure
    obtain ⟨htwo, hmem⟩ := (ending_of_stop hstop).lineFeed_mem hbroken
    rw [List.length_drop] at htwo
    rw [List.drop_drop] at hmem
    have hsame : dialect.surface.cut (text ++ more) = dialect.surface.cut text :=
      cut_append hstop (by simp [show stop.fault = _ from hbroken]) (by omega) more
    have hdiagnostic : (dialect.surface.cut text).diagnostic? (text ++ more) =
        (dialect.surface.cut text).diagnostic? text := by
      have hrow := Text.rowAt_append hmem more
      rw [lexedLength] at hrow
      simp only [Cut.diagnostic?, hstop, Option.map_some, hrow]
    rw [lex, hsame, hdiagnostic, lex]
  · intro failure symbol hfailure hsymbol hlength
    obtain ⟨stop, hstop, rfl⟩ := lex_failure?_eq_some_iff.mp hfailure
    have hsame : dialect.surface.cut (text ++ more) = dialect.surface.cut text :=
      cut_append hstop (by simp [show stop.fault = _ from hsymbol]) hlength more
    refine ⟨by rw [lex, hsame, lex], _, lex_failure?_eq_some_iff.mpr ⟨stop, ?_, rfl⟩, rfl, ?_⟩
    · rw [hsame, hstop]
    · rw [hsame]

/-- With one character behind it, a lexeme can still grow. -/
example : (full.occurrences "1.".toList).map (·.stop) = [1] ∧
    (full.occurrences "1.5".toList).map (·.stop) = [3] := by
  decide +kernel

end Dialect

end ScriptLexer
