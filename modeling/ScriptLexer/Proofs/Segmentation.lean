import ScriptLexer.Lexing
import ScriptLexer.Proofs.LetterClass
import ScriptLexer.Proofs.Munch
import ScriptLexer.Proofs.Text.Runs

set_option autoImplicit false

/-! # Segmentations

The grammar of whole texts (`Segmentation`): runs of spaces that cannot be made longer and
lexemes that the rules of priority and maximal munch pick, one after the other, up to a place
where nothing can follow (`Ending`). The cut of a text is its only segmentation
(`segmentation_iff`), and lexing is read off the one for the letters and the operators of the
dialect (`lex_grammar`). -/

namespace ScriptLexer

/-- Why no segment starts at the front of a text: it is empty, or no rule applies there. In the
second case the stop tells the fault, and what is passed before the place to point at. A literal
that is broken by a carriage return and a line feed is pointed out at the carriage return. -/
inductive Ending (surface : Surface) : Text → Option Stop → Prop where
  | done : Ending surface [] none
  | unknownSymbol {c : Char} {rest : Text} (hspace : c ≠ Text.space)
      (hquote : c ≠ Text.apostrophe)
      (hblocked : ∀ rule : Rule, ¬rule.Applies surface (c :: rest)) :
      Ending surface (c :: rest) (some ⟨.unknownSymbol [c], []⟩)
  | unterminated {rest : Text}
      (hblocked : ∀ rule : Rule, ¬rule.Applies surface (Text.apostrophe :: rest))
      (hrest : Literal.Unclosed rest) :
      Ending surface (Text.apostrophe :: rest)
        (some ⟨.literal .unterminated, Text.apostrophe :: rest⟩)
  | brokenAtLineFeed {body after : Text}
      (hblocked : ∀ rule : Rule,
        ¬rule.Applies surface (Text.apostrophe :: (body ++ Text.lineFeed :: after)))
      (hbody : Literal.Body body) (hlast : body.getLast? ≠ some Text.carriageReturn) :
      Ending surface (Text.apostrophe :: (body ++ Text.lineFeed :: after))
        (some ⟨.literal .broken, Text.apostrophe :: body⟩)
  | brokenAtReturn {body after : Text}
      (hblocked : ∀ rule : Rule, ¬rule.Applies surface
        (Text.apostrophe :: (body ++ Text.carriageReturn :: Text.lineFeed :: after)))
      (hbody : Literal.Body (body ++ [Text.carriageReturn])) :
      Ending surface (Text.apostrophe :: (body ++ Text.carriageReturn :: Text.lineFeed :: after))
        (some ⟨.literal .broken, Text.apostrophe :: body⟩)

/-- The cut splits the text by the grammar of the language. -/
inductive Segmentation (surface : Surface) : Text → Cut → Prop where
  | stop {text : Text} {stop? : Option Stop} (hending : Ending surface text stop?) :
      Segmentation surface text ⟨[], stop?⟩
  | spaces {count : Nat} {rest : Text} {cut : Cut} (hcount : 0 < count)
      (hrest : rest.head? ≠ some Text.space) (h : Segmentation surface rest cut) :
      Segmentation surface (List.replicate count Text.space ++ rest)
        (cut.after ⟨List.replicate count Text.space, none⟩)
  | lexeme {rule : Rule} {token : Token} {lexeme rest : Text} {cut : Cut}
      (hspace : (lexeme ++ rest).head? ≠ some Text.space)
      (hmunch : Munch surface rule (lexeme ++ rest) token lexeme)
      (h : Segmentation surface rest cut) :
      Segmentation surface (lexeme ++ rest) (cut.after ⟨lexeme, some token⟩)

variable {surface : Surface} {text : Text}

/-! ## The steps of the cut -/

namespace Surface

theorem cut_nil : surface.cut [] = ⟨[], none⟩ := by rw [cut]

theorem cut_spaces {count : Nat} (hcount : 0 < count) {rest : Text}
    (hrest : rest.head? ≠ some Text.space) :
    surface.cut (List.replicate count Text.space ++ rest) =
      (surface.cut rest).after ⟨List.replicate count Text.space, none⟩ := by
  obtain ⟨count, rfl⟩ := Nat.exists_eq_succ_of_ne_zero (Nat.ne_of_gt hcount)
  rw [List.replicate_succ, List.cons_append, cut, if_pos rfl, Text.takeWhile_run count hrest,
    Text.dropWhile_run count hrest]

theorem cut_token (hspace : text.head? ≠ some Text.space) {token : Token} {lexeme : Text}
    (hscan : surface.scan text = some (.token token lexeme)) :
    surface.cut text = (surface.cut (text.drop lexeme.length)).after ⟨lexeme, some token⟩ := by
  cases text with
  | nil =>
    obtain ⟨rule, hmunch⟩ := scan_eq_token_iff.mp hscan
    exact absurd (List.prefix_nil.mp hmunch.front) hmunch.written.ne_nil
  | cons c rest =>
    rw [cut, if_neg (by simpa using hspace)]
    split
    next heq => rw [hscan] at heq; simp at heq
    next heq => rw [hscan] at heq; simp at heq
    next heq =>
      rw [hscan] at heq
      obtain ⟨rfl, rfl⟩ := Scan.token.inj (Option.some.inj heq)
      rfl

theorem cut_unknown {c : Char} (hspace : c ≠ Text.space) {rest : Text}
    (hscan : surface.scan (c :: rest) = none) :
    surface.cut (c :: rest) = ⟨[], some ⟨.unknownSymbol [c], []⟩⟩ := by
  rw [cut, if_neg hspace]
  split
  · rfl
  next heq => rw [hscan] at heq; simp at heq
  next heq => rw [hscan] at heq; simp at heq

theorem cut_faulty {fault : Literal.Fault} {passed : Text}
    (hscan : surface.scan text = some (.faulty fault passed)) :
    surface.cut text = ⟨[], some ⟨.literal fault, passed⟩⟩ := by
  obtain ⟨-, rest, -, rfl, -, -⟩ := scan_eq_faulty_iff.mp hscan
  rw [cut, if_neg (by decide)]
  split
  next heq => rw [hscan] at heq; simp at heq
  next heq =>
    rw [hscan] at heq
    obtain ⟨rfl, rfl⟩ := Scan.faulty.inj (Option.some.inj heq)
    rfl
  next heq => rw [hscan] at heq; simp at heq

end Surface

/-! ## The cut is the segmentation -/

/-- A faulty scan is an ending. -/
theorem Ending.of_faulty {fault : Literal.Fault} {passed : Text}
    (h : surface.scan text = some (.faulty fault passed)) :
    Ending surface text (some ⟨.literal fault, passed⟩) := by
  obtain ⟨hblocked, rest, read, rfl, hread, rfl⟩ := Surface.scan_eq_faulty_iff.mp h
  have hreads := Literal.reads_read rest
  rw [hread] at hreads
  cases hreads with
  | @broken body hbody after =>
    -- a carriage return at the end of the body belongs to the line break
    by_cases hlast : body.getLast? = some Text.carriageReturn
    · obtain ⟨front, rfl⟩ := List.getLast?_eq_some_iff.mp hlast
      rw [Literal.beforeBreak, if_pos hlast, List.dropLast_concat]
      rw [List.append_assoc] at hblocked ⊢
      exact Ending.brokenAtReturn hblocked hbody
    · rw [Literal.beforeBreak, if_neg hlast]
      exact Ending.brokenAtLineFeed hblocked hbody hlast
  | unterminated hrest => exact Ending.unterminated hblocked hrest

theorem Ending.cut_eq {stop? : Option Stop} (h : Ending surface text stop?) :
    surface.cut text = ⟨[], stop?⟩ := by
  cases h with
  | done => exact Surface.cut_nil
  | unknownSymbol hspace hquote hblocked =>
    exact Surface.cut_unknown hspace
      (Surface.scan_eq_none_iff.mpr ⟨hblocked, by simpa using hquote⟩)
  | unterminated hblocked hrest =>
    exact Surface.cut_faulty (Surface.scan_eq_faulty_iff.mpr
      ⟨hblocked, _, _, rfl, Literal.read_eq_unterminated_iff.mpr ⟨hrest, rfl⟩, rfl⟩)
  | @brokenAtLineFeed body after hblocked hbody hlast =>
    have hread := Literal.read_body_lineFeed hbody after
    rw [Literal.beforeBreak, if_neg hlast] at hread
    exact Surface.cut_faulty
      (Surface.scan_eq_faulty_iff.mpr ⟨hblocked, _, _, rfl, hread, rfl⟩)
  | @brokenAtReturn body after hblocked hbody =>
    have hread := Literal.read_body_lineFeed hbody after
    rw [Literal.beforeBreak, if_pos List.getLast?_concat, List.dropLast_concat,
      List.append_assoc] at hread
    exact Surface.cut_faulty
      (Surface.scan_eq_faulty_iff.mpr ⟨hblocked, _, _, rfl, hread, rfl⟩)

/-- The cut follows the grammar. -/
theorem segmentation_cut (surface : Surface) (text : Text) :
    Segmentation surface text (surface.cut text) := by
  induction text using Surface.cut.induct surface with
  | case1 =>
    rw [Surface.cut_nil]
    exact Segmentation.stop Ending.done
  | case2 rest ih =>
    -- the spaces at the front are a run that cannot be made longer
    have hrun : ∀ c ∈ rest.takeWhile (· == Text.space), c = Text.space := by
      intro c hc
      simpa using List.mem_takeWhile_imp hc
    have hsplit : Text.space :: rest =
        List.replicate ((rest.takeWhile (· == Text.space)).length + 1) Text.space ++
          rest.dropWhile (· == Text.space) := by
      rw [List.replicate_succ, ← List.eq_replicate_of_mem hrun, List.cons_append,
        List.takeWhile_append_dropWhile]
    have hstop : (rest.dropWhile (· == Text.space)).head? ≠ some Text.space := by
      intro hhead
      have := List.head?_dropWhile_not (· == Text.space) rest
      simp [hhead] at this
    rw [hsplit, Surface.cut_spaces (by omega) hstop]
    exact Segmentation.spaces (by omega) hstop ih
  | case3 c rest hspace hscan =>
    obtain ⟨hblocked, hquote⟩ := Surface.scan_eq_none_iff.mp hscan
    rw [Surface.cut_unknown hspace hscan]
    exact Segmentation.stop (Ending.unknownSymbol hspace (by simpa using hquote) hblocked)
  | case4 c rest hspace fault passed hscan =>
    rw [Surface.cut_faulty hscan]
    exact Segmentation.stop (Ending.of_faulty hscan)
  | case5 c rest hspace token lexeme hscan ih =>
    have hhead : (c :: rest).head? ≠ some Text.space := by simpa using hspace
    obtain ⟨rule, hmunch⟩ := Surface.scan_eq_token_iff.mp hscan
    -- the text is its lexeme and what the recursion goes on with
    rw [Surface.cut_token hhead hscan]
    obtain ⟨more, hmore⟩ := hmunch.front
    rw [← hmore, List.drop_left] at ih ⊢
    rw [← hmore] at hhead hmunch
    exact Segmentation.lexeme hhead hmunch ih

/-- Nothing but the cut follows the grammar. -/
theorem Segmentation.cut_eq {cut : Cut} (h : Segmentation surface text cut) :
    surface.cut text = cut := by
  induction h with
  | stop hending => exact hending.cut_eq
  | spaces hcount hrest _ ih => rw [Surface.cut_spaces hcount hrest, ih]
  | lexeme hspace hmunch _ ih =>
    rw [Surface.cut_token hspace (Surface.scan_eq_token_iff.mpr ⟨_, hmunch⟩), List.drop_left, ih]

/-- **The cut of a text is its only segmentation.** -/
theorem segmentation_iff {cut : Cut} :
    Segmentation surface text cut ↔ cut = surface.cut text := by
  constructor
  · intro h
    exact h.cut_eq.symm
  · rintro rfl
    exact segmentation_cut surface text

/-! ## Segments and characters -/

@[simp] theorem Segment.characters_cons (segment : Segment) (segments : List Segment) :
    Segment.characters (segment :: segments) = segment.lexeme ++ Segment.characters segments :=
  rfl

@[simp] theorem Cut.segments_after (segment : Segment) (cut : Cut) :
    (cut.after segment).segments = segment :: cut.segments := rfl

@[simp] theorem Cut.stop?_after (segment : Segment) (cut : Cut) :
    (cut.after segment).stop? = cut.stop? := rfl

/-- The segments are a beginning of the text, and an ending follows them. -/
theorem Segmentation.exists_rest {cut : Cut} (h : Segmentation surface text cut) :
    ∃ rest, text = Segment.characters cut.segments ++ rest ∧ Ending surface rest cut.stop? := by
  induction h with
  | stop hending => exact ⟨_, rfl, hending⟩
  | spaces hcount hrest _ ih =>
    obtain ⟨rest, rfl, hending⟩ := ih
    exact ⟨rest, by simp, hending⟩
  | lexeme hspace hmunch _ ih =>
    obtain ⟨rest, rfl, hending⟩ := ih
    exact ⟨rest, by simp, hending⟩

/-- What a segment is made of: spaces, or a lexeme of its token. -/
inductive Segment.Shaped (surface : Surface) : Segment → Prop where
  | spaces {count : Nat} (hcount : 0 < count) :
      Segment.Shaped surface ⟨List.replicate count Text.space, none⟩
  | lexeme {rule : Rule} {token : Token} {lexeme : Text}
      (hwritten : Lexeme surface rule token lexeme) : Segment.Shaped surface ⟨lexeme, some token⟩

theorem Segment.Shaped.lexeme_ne_nil {segment : Segment} (h : segment.Shaped surface) :
    segment.lexeme ≠ [] := by
  cases h with
  | spaces hcount => simpa using Nat.ne_of_gt hcount
  | lexeme hwritten => exact hwritten.ne_nil

theorem Segmentation.shaped {cut : Cut} (h : Segmentation surface text cut) :
    ∀ segment ∈ cut.segments, segment.Shaped surface := by
  induction h with
  | stop _ => simp
  | spaces hcount _ _ ih =>
    intro segment hsegment
    rcases List.mem_cons.mp hsegment with rfl | hsegment
    · exact Segment.Shaped.spaces hcount
    · exact ih segment hsegment
  | lexeme _ hmunch _ ih =>
    intro segment hsegment
    rcases List.mem_cons.mp hsegment with rfl | hsegment
    · exact Segment.Shaped.lexeme hmunch.written
    · exact ih segment hsegment

theorem Ending.eq_nil_iff {stop? : Option Stop} (h : Ending surface text stop?) :
    text = [] ↔ stop? = none := by
  cases h <;> simp

/-- Positions aside, the tokens are those of the segments. -/
theorem Segment.map_token_locate (p : Position) (segments : List Segment) :
    (Segment.locate p segments).map (·.token) = segments.filterMap (·.token?) := by
  induction segments generalizing p with
  | nil => rfl
  | cons segment segments ih =>
    cases h : segment.token? with
    | none => simp [Segment.locate, h, ih]
    | some token => simp [Segment.locate, h, ih]

section

variable {change : Segment → Segment} {segments : List Segment}
  (hadvance : ∀ segment ∈ segments, ∀ p, (change segment).advance p = segment.advance p)
include hadvance

/-- Segments that are changed lead to the same position, if each of them does. -/
theorem Segment.advanceAll_map (p : Position) :
    Segment.advanceAll p (segments.map change) = Segment.advanceAll p segments := by
  induction segments generalizing p with
  | nil => rfl
  | cons segment segments ih =>
    have hrest := ih fun s hs => hadvance s (by simp [hs])
    simp only [Segment.advanceAll, List.map_cons, List.foldl_cons,
      hadvance segment (by simp)] at hrest ⊢
    exact hrest _

/-- Their tokens are changed and stay where they are. -/
theorem Segment.locate_map {changeToken : Token → Token}
    (htoken : ∀ segment ∈ segments, (change segment).token? = segment.token?.map changeToken)
    (p : Position) :
    Segment.locate p (segments.map change) =
      (Segment.locate p segments).map fun located =>
        ⟨changeToken located.token, located.position⟩ := by
  induction segments generalizing p with
  | nil => rfl
  | cons segment segments ih =>
    have hrest := ih (fun s hs => hadvance s (by simp [hs])) fun s hs => htoken s (by simp [hs])
    simp only [List.map_cons, Segment.locate, hadvance segment (by simp),
      htoken segment (by simp), hrest]
    cases segment.token? with
    | none => rfl
    | some token => rfl

end

/-- A text that is one lexeme becomes one token. -/
theorem Dialect.lex_munch {dialect : Dialect} {rule : Rule} {token : Token} {text : Text}
    (hspace : text.head? ≠ some Text.space) (hmunch : Munch dialect.surface rule text token text) :
    dialect.lex text = ⟨[⟨token, Position.start⟩], none⟩ := by
  have hsegmentation := @Segmentation.lexeme dialect.surface rule token text [] ⟨[], none⟩
  rw [List.append_nil] at hsegmentation
  have hcut := (hsegmentation hspace hmunch (Segmentation.stop Ending.done)).cut_eq
  rw [lex, hcut]
  rfl

/-- **Lexing is the grammar of priority and maximal munch.** The letters of a dialect are the
characters of the items that its class text divides into. With these letters, and with the rule
for operators if the dialect has them, every text has exactly one segmentation. Its segments are
not empty and follow each other from the start of the text, the tokens are those of the segments
in order, and lexing succeeds exactly if the segments cover the text; otherwise it fails with the
fault of the ending that follows them. -/
theorem Dialect.lex_grammar (dialect : Dialect) (text : Text) :
    (∃ items, ClassItem.Divides (letterClass dialect.alphabet dialect.caseInsensitive) items ∧
      ∀ c, dialect.isLetter c = true ↔ ClassItem.letter c ∈ items ∨
        ∃ low high, ClassItem.range low high ∈ items ∧ low ≤ c ∧ c ≤ high) ∧
    ∃ cut : Cut,
      (∀ cut', Segmentation ⟨dialect.isLetter, dialect.operators⟩ text cut' ↔ cut' = cut) ∧
      (∀ segment ∈ cut.segments, segment.lexeme ≠ []) ∧
      (∃ rest, text = Segment.characters cut.segments ++ rest ∧
        Ending ⟨dialect.isLetter, dialect.operators⟩ rest cut.stop?) ∧
      (dialect.lex text).tokens.map (·.token) = cut.segments.filterMap (·.token?) ∧
      ((dialect.lex text).ok = true ↔ Segment.characters cut.segments = text) ∧
      (dialect.lex text).failure?.map (·.fault) = cut.stop?.map (·.fault) := by
  rw [← dialect.surface_eq]
  refine ⟨⟨dialect.letterItems, ClassItem.divides_ofText _, fun c => ClassItem.any_covers_iff⟩, ?_⟩
  have hcut := segmentation_cut dialect.surface text
  obtain ⟨rest, htext, hending⟩ := hcut.exists_rest
  refine ⟨dialect.surface.cut text, fun cut' => segmentation_iff,
    fun segment hsegment => (hcut.shaped segment hsegment).lexeme_ne_nil,
    ⟨rest, htext, hending⟩, Segment.map_token_locate _ _, ?_, ?_⟩
  · -- the segments cover the text exactly if nothing is left for the ending
    have hcover : Segment.characters (dialect.surface.cut text).segments = text ↔ rest = [] := by
      constructor
      · intro h
        rw [h] at htext
        exact List.self_eq_append_right.mp htext
      · rintro rfl
        rw [List.append_nil] at htext
        exact htext.symm
    rw [hcover, hending.eq_nil_iff]
    simp [Dialect.lex, Lexing.ok, Cut.diagnostic?]
  · simp only [Dialect.lex, Cut.diagnostic?, Option.map_map]
    rfl

/-- An assignment in the two dialects that have names. The reduced one has no operators, so its
segmentation ends behind the first identifier. -/
theorem Dialect.lex_grammar_assignment :
    let text : Text := "я += x".toList
    let first : List Segment := [⟨['я'], some (.identifier ['я'])⟩, ⟨[Text.space], none⟩]
    let more : List Segment := [⟨['+', '='], some (.operator .addAssign)⟩, ⟨[Text.space], none⟩,
      ⟨['x'], some (.identifier ['x'])⟩]
    Segmentation ⟨full.isLetter, full.operators⟩ text ⟨first ++ more, none⟩ ∧
      (full.lex text).ok = true ∧
      (full.lex text).tokens.map (·.token) =
        [.identifier ['я'], .operator .addAssign, .identifier ['x']] ∧
      Segmentation ⟨reduced.isLetter, reduced.operators⟩ text
        ⟨first, some ⟨.unknownSymbol ['+'], []⟩⟩ ∧
      (reduced.lex text).ok = false ∧
      (reduced.lex text).tokens.map (·.token) = [.identifier ['я']] ∧
      (reduced.lex text).failure?.map (·.fault) = some (.unknownSymbol ['+']) := by
  intro text first more
  have hfull : full.surface.cut text = ⟨first ++ more, none⟩ := by decide +kernel
  have hreduced : reduced.surface.cut text = ⟨first, some ⟨.unknownSymbol ['+'], []⟩⟩ := by
    decide +kernel
  obtain ⟨-, cut, honly, -, -, htokens, hok, -⟩ := lex_grammar full text
  obtain ⟨-, cut', honly', -, -, htokens', hok', hfault'⟩ := lex_grammar reduced text
  obtain rfl : _ = cut := hfull.symm.trans ((honly _).mp (segmentation_cut _ _))
  obtain rfl : _ = cut' := hreduced.symm.trans ((honly' _).mp (segmentation_cut _ _))
  refine ⟨(honly _).mpr rfl, hok.mpr (by decide), htokens, (honly' _).mpr rfl, ?_, htokens',
    hfault'⟩
  rw [Bool.eq_false_iff, Ne, hok']
  decide

end ScriptLexer
