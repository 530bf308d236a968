import ScriptLexer.Proofs.Reserved
import ScriptLexer.Proofs.Segmentation
import Mathlib.Logic.Equiv.Basic

set_option autoImplicit false

/-! # Renamed characters

Apart from the reserved characters and the backslash, lexing asks of a character only whether it is
a letter. So the characters of a text may be renamed one by one, if those stay what they are and
letters become letters (`Renaming`): the rules pick the same lexemes in the renamed text
(`Munch.rename`), and its segments are the renamed segments (`Segmentation.rename`). A renaming can
be undone, so it is enough to show of each notion that it survives one. What lexing gives for the
renamed text is what it gives for the text, renamed (`Dialect.lex_rename`). -/

namespace ScriptLexer

/-! ## Results with renamed characters -/

/-- The token with its characters renamed. -/
def Token.rename (f : Char → Char) : Token → Token
  | .identifier name => .identifier (name.map f)
  | .number value => .number value
  | .operator op => .operator op
  | .string value => .string (value.map f)
  | .lineBreak => .lineBreak

/-- The token with its characters renamed, where it was. -/
def LocatedToken.rename (f : Char → Char) (located : LocatedToken) : LocatedToken :=
  ⟨located.token.rename f, located.position⟩

/-- The fault with its symbol renamed, if it has one. -/
def Fault.rename (f : Char → Char) : Fault → Fault
  | .unknownSymbol symbol => .unknownSymbol (symbol.map f)
  | .literal fault => .literal fault
  | .other message hint? => .other message hint?

/-- The diagnostic with its symbol and its row renamed, where it was. -/
def Diagnostic.rename (f : Char → Char) (diagnostic : Diagnostic) : Diagnostic :=
  ⟨diagnostic.fault.rename f, diagnostic.position, diagnostic.sourceLine?.map (·.map f)⟩

/-- What lexing gives, with all characters renamed. -/
def Lexing.rename (f : Char → Char) (lexing : Lexing) : Lexing :=
  ⟨lexing.tokens.map (·.rename f), lexing.failure?.map (·.rename f)⟩

/-- The segment with its characters renamed. -/
def Segment.rename (f : Char → Char) (segment : Segment) : Segment :=
  ⟨segment.lexeme.map f, segment.token?.map (·.rename f)⟩

/-- The stop with its characters renamed. -/
def Stop.rename (f : Char → Char) (stop : Stop) : Stop :=
  ⟨stop.fault.rename f, stop.passed.map f⟩

/-- The cut with its characters renamed. -/
def Cut.rename (f : Char → Char) (cut : Cut) : Cut :=
  ⟨cut.segments.map (·.rename f), cut.stop?.map (·.rename f)⟩

/-! ## Renamings -/

/-- The characters with a meaning of their own: the reserved ones, and the backslash. -/
def Surface.marks : List Char := Text.backslash :: Surface.reserved

/-- A permutation of the characters that takes the letters of one surface to those of another and
leaves the characters with a meaning of their own as they are. -/
structure Renaming (source target : Surface) where
  /-- What each character becomes. -/
  perm : Equiv.Perm Char
  fixed : ∀ c ∈ Surface.marks, perm c = c
  letters : ∀ c, target.isLetter (perm c) = source.isLetter c
  operators : target.operators = source.operators

variable {source target : Surface}

namespace Renaming

variable (f : Renaming source target)

/-- The renaming undone. -/
def symm : Renaming target source where
  perm := f.perm.symm
  fixed := fun c hc => by rw [Equiv.symm_apply_eq, f.fixed c hc]
  letters := fun c => by rw [← f.letters, Equiv.apply_symm_apply]
  operators := f.operators.symm

theorem map_symm_map (text : Text) : (text.map f.perm).map f.symm.perm = text := by
  rw [List.map_map]
  exact (List.map_congr_left fun c _ => f.perm.symm_apply_apply c).trans (List.map_id text)

theorem perm_eq_iff {c d : Char} (hd : d ∈ Surface.marks) : f.perm c = d ↔ c = d := by
  constructor
  · intro h
    exact f.perm.injective (h.trans (f.fixed d hd).symm)
  · rintro rfl
    exact f.fixed _ hd

theorem perm_beq {d : Char} (hd : d ∈ Surface.marks) (c : Char) :
    (f.perm c == d) = (c == d) := by
  rw [Bool.eq_iff_iff, beq_iff_eq, beq_iff_eq, f.perm_eq_iff hd]

theorem perm_bne {d : Char} (hd : d ∈ Surface.marks) (c : Char) :
    (f.perm c != d) = (c != d) := by
  rw [bne, bne, f.perm_beq hd]

theorem map_cons {d : Char} (hd : d ∈ Surface.marks) (rest : Text) :
    (d :: rest).map f.perm = d :: rest.map f.perm := by
  rw [List.map_cons, f.fixed d hd]

/-- A text of characters with a meaning of their own stays as it is. -/
theorem map_eq_self {text : Text} (h : ∀ c ∈ text, c ∈ Surface.marks) : text.map f.perm = text :=
  (List.map_congr_left fun c hc => f.fixed c (h c hc)).trans (List.map_id' text)

theorem map_ne_some {d : Char} (hd : d ∈ Surface.marks) {c? : Option Char} (h : c? ≠ some d) :
    c?.map f.perm ≠ some d := by
  cases c? with
  | none => simp
  | some c => simpa [f.perm_eq_iff hd] using h

theorem head?_map_ne {d : Char} (hd : d ∈ Surface.marks) {text : Text}
    (h : text.head? ≠ some d) : (text.map f.perm).head? ≠ some d := by
  rw [List.head?_map]
  exact f.map_ne_some hd h

theorem takeWhile_row (text : Text) :
    (text.map f.perm).takeWhile (· != Text.lineFeed) =
      (text.takeWhile (· != Text.lineFeed)).map f.perm := by
  have hsame : (· != Text.lineFeed) ∘ f.perm = (· != Text.lineFeed) :=
    funext fun c => f.perm_bne (by decide) c
  rw [List.takeWhile_map, hsame]

theorem trimEnd_returns (text : Text) :
    Text.trimEnd (· == Text.carriageReturn) (text.map f.perm) =
      (Text.trimEnd (· == Text.carriageReturn) text).map f.perm := by
  have hsame : (· == Text.carriageReturn) ∘ f.perm = (· == Text.carriageReturn) :=
    funext fun c => f.perm_beq (by decide) c
  rw [Text.trimEnd, Text.trimEnd, ← List.map_reverse, List.dropWhile_map, hsame, List.map_reverse]

theorem isPlain_perm (c : Char) : Literal.isPlain (f.perm c) = Literal.isPlain c := by
  simp only [Literal.isPlain, Literal.isDelimiter, bne,
    f.perm_beq (d := Text.apostrophe) (by decide), f.perm_beq (d := Text.lineFeed) (by decide),
    f.perm_beq (d := Text.backslash) (by decide)]

theorem isProtected_perm (c : Char) : Literal.isProtected (f.perm c) = Literal.isProtected c := by
  simp only [Literal.isProtected, f.perm_beq (d := Text.apostrophe) (by decide),
    f.perm_beq (d := Text.backslash) (by decide)]

end Renaming

/-! ## Lexemes and munches -/

variable {rule : Rule} {token : Token} {text lexeme : Text}

theorem Literal.Body.rename {body : Text} (hbody : Literal.Body body)
    (f : Renaming source target) : Literal.Body (body.map f.perm) := by
  induction hbody with
  | nil => exact Literal.Body.nil
  | plain hc _ ih => exact ih.plain (by rwa [f.isPlain_perm])
  | escape c _ ih =>
    rw [f.map_cons (by decide), List.map_cons]
    exact ih.escape (f.perm c)

theorem Literal.Body.unescape_map {body : Text} (hbody : Literal.Body body)
    (f : Renaming source target) :
    Literal.unescape (body.map f.perm) = (Literal.unescape body).map f.perm := by
  induction hbody with
  | nil => rfl
  | @plain c body hc _ ih =>
    have hc' : Literal.isPlain (f.perm c) = true := by rwa [f.isPlain_perm]
    rw [List.map_cons, Literal.unescape_cons (Literal.isPlain_iff.mp hc').2, ih,
      Literal.unescape_cons (Literal.isPlain_iff.mp hc).2, List.map_cons]
  | escape c _ ih =>
    rw [f.map_cons (by decide), List.map_cons, Literal.unescape_escape, Literal.unescape_escape,
      f.isProtected_perm, ih]
    split
    · rw [List.map_cons]
    · rw [f.map_cons (by decide), List.map_cons]

theorem Literal.Unclosed.rename {rest : Text} (h : Literal.Unclosed rest)
    (f : Renaming source target) : Literal.Unclosed (rest.map f.perm) := by
  obtain ⟨body, hbody, rfl | rfl⟩ := h
  · exact ⟨_, hbody.rename f, Or.inl rfl⟩
  · refine ⟨_, hbody.rename f, Or.inr ?_⟩
    rw [List.map_append, f.map_cons (by decide), List.map_nil]

/-- A lexeme stays one. -/
theorem Lexeme.rename (h : Lexeme source rule token lexeme) (f : Renaming source target) :
    Lexeme target rule (token.rename f.perm) (lexeme.map f.perm) := by
  cases h with
  | identifier hne hletters =>
    refine Lexeme.identifier (by simpa using hne) fun c hc => ?_
    obtain ⟨d, hd, rfl⟩ := List.mem_map.mp hc
    rw [f.letters]
    exact hletters d hd
  | number hnumeral hvalue =>
    have hsame : lexeme.map f.perm = lexeme := by
      refine f.map_eq_self fun c hc => ?_
      rcases hnumeral.mem hc with hdigit | rfl
      · exact List.mem_cons_of_mem _ (Surface.mem_reserved_of_isDigit hdigit)
      · decide
    rw [hsame]
    exact Lexeme.number hnumeral hvalue
  | operator hoperators op =>
    have hsame : op.symbol.map f.perm = op.symbol := by
      have hmarks : op.symbol.all (Surface.marks.contains ·) = true := by cases op <;> rfl
      exact f.map_eq_self fun c hc => by simpa using List.all_eq_true.mp hmarks c hc
    rw [hsame]
    exact Lexeme.operator (f.operators.trans hoperators) op
  | string hbody =>
    have hstring : Lexeme target .string _ _ := Lexeme.string (hbody.rename f)
    rw [hbody.unescape_map f] at hstring
    simpa [Token.rename, f.fixed Text.apostrophe (by decide)] using hstring
  | lineFeed =>
    rw [f.map_cons (by decide), List.map_nil]
    exact Lexeme.lineFeed
  | carriageReturn =>
    rw [f.map_cons (by decide), f.map_cons (by decide), List.map_nil]
    exact Lexeme.carriageReturn

theorem Rule.Applies.rename (h : rule.Applies source text) (f : Renaming source target) :
    rule.Applies target (text.map f.perm) := by
  obtain ⟨token, lexeme, hwritten, hfront⟩ := h
  exact ⟨_, _, hwritten.rename f, hfront.map f.perm⟩

theorem Rule.Applies.of_rename {f : Renaming source target}
    (h : rule.Applies target (text.map f.perm)) : rule.Applies source text := by
  have hback := h.rename f.symm
  rwa [f.map_symm_map] at hback

/-- **The rules pick the renamed lexeme in the renamed text.** -/
theorem Munch.rename (h : Munch source rule text token lexeme) (f : Renaming source target) :
    Munch target rule (text.map f.perm) (token.rename f.perm) (lexeme.map f.perm) := by
  refine ⟨⟨h.written.rename f, h.front.map f.perm, fun token' lexeme' hwritten hfront => ?_⟩,
    fun earlier hrank happlies => h.first earlier hrank happlies.of_rename⟩
  have hback := hfront.map f.symm.perm
  rw [f.map_symm_map] at hback
  simpa using h.longest _ _ (hwritten.rename f.symm) hback

/-- Where a text ends, the renamed text ends in the same way. -/
theorem Ending.rename {stop? : Option Stop} (h : Ending source text stop?)
    (f : Renaming source target) :
    Ending target (text.map f.perm) (stop?.map (·.rename f.perm)) := by
  have hblocked : (∀ rule : Rule, ¬rule.Applies source text) →
      ∀ rule : Rule, ¬rule.Applies target (text.map f.perm) :=
    fun hblocked rule happlies => hblocked rule happlies.of_rename
  cases h with
  | done => exact Ending.done
  | @unknownSymbol c rest hspace hquote hno =>
    refine Ending.unknownSymbol ?_ ?_ (hblocked hno)
    · rwa [Ne, f.perm_eq_iff (by decide)]
    · rwa [Ne, f.perm_eq_iff (by decide)]
  | @unterminated rest hno hrest =>
    have hblocked := hblocked hno
    simp only [Option.map_some, Stop.rename, f.map_cons (d := Text.apostrophe) (by decide)]
      at hblocked ⊢
    exact Ending.unterminated hblocked (hrest.rename f)
  | @brokenAtLineFeed body after hno hbody hlast =>
    have hblocked := hblocked hno
    simp only [Option.map_some, Stop.rename, List.map_append,
      f.map_cons (d := Text.apostrophe) (by decide), f.map_cons (d := Text.lineFeed) (by decide)]
      at hblocked ⊢
    refine Ending.brokenAtLineFeed hblocked (hbody.rename f) ?_
    rw [List.getLast?_map]
    exact f.map_ne_some (by decide) hlast
  | @brokenAtReturn body after hno hbody =>
    have hblocked := hblocked hno
    have hbody := hbody.rename f
    simp only [Option.map_some, Stop.rename, List.map_append,
      f.map_cons (d := Text.apostrophe) (by decide), f.map_cons (d := Text.lineFeed) (by decide),
      f.map_cons (d := Text.carriageReturn) (by decide)] at hblocked hbody ⊢
    exact Ending.brokenAtReturn hblocked hbody

/-- **The segments of the renamed text are the renamed segments.** -/
theorem Segmentation.rename {cut : Cut} (h : Segmentation source text cut)
    (f : Renaming source target) : Segmentation target (text.map f.perm) (cut.rename f.perm) := by
  induction h with
  | stop hending => exact Segmentation.stop (hending.rename f)
  | @spaces count rest cut hcount hrest _ ih =>
    have hspaces := Segmentation.spaces hcount (f.head?_map_ne (by decide) hrest) ih
    simpa [Cut.rename, Cut.after, Segment.rename, f.fixed Text.space (by decide)] using hspaces
  | @lexeme rule token lexeme rest cut hspace hmunch _ ih =>
    have hhead := f.head?_map_ne (by decide) hspace
    have hpicked := hmunch.rename f
    rw [List.map_append] at hhead hpicked ⊢
    exact Segmentation.lexeme hhead hpicked ih

/-! ## Positions and rows -/

theorem Position.past_map (p : Position) (text : Text) (f : Renaming source target) :
    p.past (text.map f.perm) = p.past text := by
  have hcount : (text.map f.perm).count Text.lineFeed = text.count Text.lineFeed := by
    rw [List.count_eq_countP, List.countP_map, List.count_eq_countP]
    exact List.countP_congr fun c _ => by simp [f.perm_eq_iff (d := Text.lineFeed) (by decide)]
  simp only [past, hcount, List.length_map, ← List.map_reverse, f.takeWhile_row]

namespace Segment

theorem advance_rename (segment : Segment) (p : Position) (f : Renaming source target) :
    (segment.rename f.perm).advance p = segment.advance p := by
  obtain ⟨lexeme, token?⟩ := segment
  cases token? with
  | none => simp [Segment.rename, advance]
  | some token =>
    cases token <;> simp [Segment.rename, advance, Token.rename, Position.past_map]

theorem locate_rename (p : Position) (segments : List Segment) (f : Renaming source target) :
    locate p (segments.map (·.rename f.perm)) = (locate p segments).map (·.rename f.perm) :=
  locate_map (fun segment _ q => advance_rename segment q f) (fun _ _ => rfl) p

theorem advanceAll_rename (p : Position) (segments : List Segment) (f : Renaming source target) :
    advanceAll p (segments.map (·.rename f.perm)) = advanceAll p segments :=
  advanceAll_map (fun segment _ q => advance_rename segment q f) p

theorem characters_rename (segments : List Segment) (f : Char → Char) :
    characters (segments.map (·.rename f)) = (characters segments).map f := by
  rw [characters, List.flatMap_map, characters, List.map_flatMap]
  rfl

end Segment

theorem Text.rowAt_map (text : Text) (index : Nat) (f : Renaming source target) :
    Text.rowAt (text.map f.perm) index = (text.rowAt index).map f.perm := by
  rw [Text.rowAt, ← List.map_take, ← List.map_drop, ← List.map_reverse, f.takeWhile_row,
    f.takeWhile_row, ← List.map_reverse, ← List.map_append, f.trimEnd_returns]
  rfl

/-! ## Lexing -/

theorem Cut.diagnostic?_rename (cut : Cut) (text : Text) (f : Renaming source target) :
    (cut.rename f.perm).diagnostic? (text.map f.perm) =
      (cut.diagnostic? text).map (·.rename f.perm) := by
  obtain ⟨segments, stop?⟩ := cut
  cases stop? with
  | none => rfl
  | some stop =>
    simp [Cut.diagnostic?, Cut.rename, Stop.rename, Diagnostic.rename, Segment.characters_rename,
      Segment.advanceAll_rename, Position.past_map, Text.rowAt_map]

namespace Dialect

/-- **Only letters, reserved characters and backslashes are told apart.** If a permutation of the
characters leaves the reserved characters and the backslash as they are and takes the letters of a
dialect to those of another one that agrees on operators, then lexing a text with all its characters
renamed gives the same as lexing the text, with all characters renamed: the same tokens at the same
positions and the same failure or none, where names, values of literals, the unknown symbol and the
row that is shown are renamed. -/
theorem lex_rename (f : Equiv.Perm Char) (hfixed : ∀ c ∈ Surface.marks, f c = c)
    (source target : Dialect) (hoperators : source.operators = target.operators)
    (hletters : ∀ c, source.isLetter c = true ↔ target.isLetter (f c) = true) (text : Text) :
    target.lex (text.map f) = (source.lex text).rename f := by
  let g : Renaming source.surface target.surface :=
    ⟨f, hfixed, fun c => Bool.eq_iff_iff.mpr (hletters c).symm, hoperators.symm⟩
  have hcut := ((segmentation_cut source.surface text).rename g).cut_eq
  have htokens := Segment.locate_rename Position.start (source.surface.cut text).segments g
  have hfailure := (source.surface.cut text).diagnostic?_rename text g
  rw [Dialect.lex, hcut]
  simp only [Lexing.rename, Dialect.lex, Lexing.mk.injEq]
  exact ⟨htokens, hfailure⟩

/-- A dialect with the letters a and b. -/
def plainPair : Dialect := ⟨"ab".toList, false, true, by decide +kernel⟩

/-- A dialect with an accented letter in the place of b. -/
def accentedPair : Dialect := ⟨"aé".toList, false, true, by decide +kernel⟩

/-- The accented letter is exchanged with b, in names, in a literal, and where it is unknown. -/
theorem lex_rename_accented :
    (∀ c ∈ Surface.marks, Equiv.swap 'b' 'é' c = c) ∧
      plainPair.operators = accentedPair.operators ∧
      (∀ c, plainPair.isLetter c = true ↔ accentedPair.isLetter (Equiv.swap 'b' 'é' c) = true) ∧
      "aé 'b\\b'+1.5 b".toList = "ab 'é\\é'+1.5 é".toList.map (Equiv.swap 'b' 'é') ∧
      accentedPair.lex "aé 'b\\b'+1.5 b".toList =
        ⟨[⟨.identifier "aé".toList, ⟨1, 1⟩⟩, ⟨.string "'b\\b'".toList, ⟨1, 4⟩⟩,
            ⟨.operator .add, ⟨1, 9⟩⟩, ⟨.number ⟨false, .nearest 15 10⟩, ⟨1, 10⟩⟩],
          some ⟨.unknownSymbol ['b'], ⟨1, 14⟩, some "aé 'b\\b'+1.5 b".toList⟩⟩ := by
  have hfixed : ∀ c ∈ Surface.marks, Equiv.swap 'b' 'é' c = c := by
    intro c hc
    apply Equiv.swap_apply_of_ne_of_ne
    · rintro rfl
      exact absurd hc (by decide)
    · rintro rfl
      exact absurd hc (by decide)
  have hplain : ∀ c, plainPair.isLetter c = true ↔ 'a' = c ∨ 'b' = c := by
    intro c
    simp [plainPair, isLetter, letterItems, classText, letterClass, ClassItem.ofText,
      ClassItem.covers]
  have haccented : ∀ c, accentedPair.isLetter c = true ↔ 'a' = c ∨ 'é' = c := by
    intro c
    simp [accentedPair, isLetter, letterItems, classText, letterClass, ClassItem.ofText,
      ClassItem.covers]
  have hletters : ∀ c,
      plainPair.isLetter c = true ↔ accentedPair.isLetter (Equiv.swap 'b' 'é' c) = true := by
    intro c
    have hself : Equiv.swap 'b' 'é' 'a' = 'a' := by decide
    have hswap : Equiv.swap 'b' 'é' 'b' = 'é' := Equiv.swap_apply_left _ _
    rw [hplain, haccented, ← Equiv.apply_eq_iff_eq (Equiv.swap 'b' 'é') (x := 'a'),
      ← Equiv.apply_eq_iff_eq (Equiv.swap 'b' 'é') (x := 'b'), hself, hswap]
  have htext : "aé 'b\\b'+1.5 b".toList = "ab 'é\\é'+1.5 é".toList.map (Equiv.swap 'b' 'é') := by
    decide
  refine ⟨hfixed, rfl, hletters, htext, ?_⟩
  rw [htext]
  refine (lex_rename (Equiv.swap 'b' 'é') hfixed plainPair accentedPair rfl hletters _).trans ?_
  decide +kernel

end Dialect

end ScriptLexer
