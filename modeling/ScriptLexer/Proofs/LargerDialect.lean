import ScriptLexer.Proofs.Parts
import ScriptLexer.Proofs.Reserved

set_option autoImplicit false

/-! # Larger dialects

A dialect with more letters may read longer identifiers, and identifiers come before everything
else. A larger dialect is one that keeps the letters and the operators of a smaller one and whose
new letters are no characters that a segment can start with (`Surface.Extends`). Where the smaller
dialect goes on from one lexeme to the next, the character in between then is no letter of the
larger one either, so both pick the same lexemes (`Munch.extend`). A program of the smaller dialect
therefore has the same tokens at the same positions in the larger one
(`Dialect.lex_of_extends`). -/

namespace ScriptLexer

/-- The larger surface has all letters of the smaller one, and operators if that has them; of the
reserved characters, only the point and the equals sign can be new letters. -/
structure Surface.Extends (large small : Surface) : Prop where
  letters : ∀ c, small.isLetter c = true → large.isLetter c = true
  operators : small.operators = true → large.operators = true
  fresh : ∀ c ∈ Surface.reserved, large.isLetter c = true → small.isLetter c = false →
    c = '.' ∨ c = '='

variable {small large : Surface} {rule : Rule} {token : Token} {text lexeme rest : Text} {c : Char}

/-! ## Characters that segments start with -/

/-- Letters aside, no lexeme starts with a point or an equals sign. -/
theorem Rule.ne_of_starts (h : rule.starts small c) (hrule : rule ≠ .identifier) :
    c ≠ '.' ∧ c ≠ '=' := by
  have hfirst := ofReserved?_of_starts h hrule
  constructor
  · rintro rfl
    exact absurd hfirst (by simp [show ofReserved? '.' = none by decide])
  · rintro rfl
    exact absurd hfirst (by simp [show ofReserved? '=' = none by decide])

namespace Surface.Extends

/-- A character that a lexeme of another rule starts with is no new letter. -/
theorem isLetter_of_starts (h : large.Extends small) (hstarts : rule.starts small c)
    (hrule : rule ≠ .identifier) (hletter : small.isLetter c = false) :
    large.isLetter c = false := by
  by_contra hnew
  have hpoint := h.fresh c (Rule.mem_reserved_of_starts hstarts hrule) (by simpa using hnew) hletter
  have hne := Rule.ne_of_starts hstarts hrule
  exact hpoint.elim hne.1 hne.2

/-- The space is no new letter. -/
theorem isLetter_space (h : large.Extends small) (hletter : small.isLetter Text.space = false) :
    large.isLetter Text.space = false := by
  by_contra hnew
  have hpoint := h.fresh Text.space (by decide) (by simpa using hnew) hletter
  exact absurd hpoint (by decide)

end Surface.Extends

/-! ## Lexemes and munches -/

/-- A lexeme stays one. -/
theorem Lexeme.extend (h : Lexeme small rule token lexeme) (hext : large.Extends small) :
    Lexeme large rule token lexeme := by
  cases h with
  | identifier hne hletters =>
    exact Lexeme.identifier hne fun c hc => hext.letters c (hletters c hc)
  | number hnumeral hvalue => exact Lexeme.number hnumeral hvalue
  | operator hoperators op => exact Lexeme.operator (hext.operators hoperators) op
  | string hbody => exact Lexeme.string hbody
  | lineFeed => exact Lexeme.lineFeed
  | carriageReturn => exact Lexeme.carriageReturn

/-- Identifiers and operators aside, no lexeme is new. -/
theorem Lexeme.restrict (h : Lexeme large rule token lexeme) (hrule : rule ≠ .identifier)
    (hoperators : rule = .operator → small.operators = true) : Lexeme small rule token lexeme := by
  cases h with
  | identifier _ _ => exact absurd rfl hrule
  | number hnumeral hvalue => exact Lexeme.number hnumeral hvalue
  | operator _ op => exact Lexeme.operator (hoperators rfl) op
  | string hbody => exact Lexeme.string hbody
  | lineFeed => exact Lexeme.lineFeed
  | carriageReturn => exact Lexeme.carriageReturn

/-- Where another rule has been picked, the first character is no letter. -/
theorem Munch.isLetter_eq_false (h : Munch small rule (c :: rest) token lexeme)
    (hrule : rule ≠ .identifier) : small.isLetter c = false := by
  by_contra hletter
  have hname : Lexeme small .identifier (.identifier [c]) [c] := by
    refine Lexeme.identifier (by simp) fun d hd => ?_
    rw [List.mem_singleton.mp hd]
    simpa using hletter
  refine h.first .identifier ?_ ⟨_, _, hname, ⟨rest, rfl⟩⟩
  cases rule with
  | identifier => exact absurd rfl hrule
  | _ => decide

/-- What follows a lexeme does not start with a new letter: it ends, or another lexeme or a space
starts there. -/
def Surface.Closes (surface : Surface) (rest : Text) : Prop :=
  ∀ c, rest.head? = some c → surface.isLetter c = true ∨ c = Text.space ∨
    ∃ rule : Rule, rule ≠ .identifier ∧ rule.starts surface c

theorem Segmentation.closes {cut : Cut} (h : Segmentation small text cut)
    (hstop : cut.stop? = none) : small.Closes text := by
  intro c hc
  cases h with
  | stop hending =>
    obtain rfl := hending.eq_nil_iff.mpr hstop
    simp at hc
  | spaces hcount _ _ =>
    obtain ⟨count, rfl⟩ := Nat.exists_eq_succ_of_ne_zero (Nat.ne_of_gt hcount)
    exact Or.inr (Or.inl (Option.some.inj hc).symm)
  | @lexeme rule token lexeme rest _ _ hmunch _ =>
    obtain ⟨d, first, rfl, hd⟩ := hmunch.written.starts
    obtain rfl : d = c := Option.some.inj hc
    by_cases hrule : rule = .identifier
    · subst hrule
      exact Or.inl hd
    · exact Or.inr (Or.inr ⟨rule, hrule, hd⟩)

/-- A longest identifier stays the longest one. -/
theorem Rule.Longest.extend_identifier
    (h : Rule.identifier.Longest small (lexeme ++ rest) token lexeme)
    (hext : large.Extends small) (hrest : small.Closes rest) :
    Rule.identifier.Longest large (lexeme ++ rest) token lexeme := by
  refine (h.written.extend hext).longest fun c hc => ?_
  have hwritten := h.written
  cases hwritten with
  | identifier hne hletters =>
    -- with one more letter, the identifier would have been longer
    have hold : small.isLetter c = false := by
      by_contra hletter
      obtain ⟨more, rfl⟩ := List.head?_eq_some_iff.mp hc
      have hlonger : Lexeme small .identifier (.identifier (lexeme ++ [c])) (lexeme ++ [c]) := by
        refine Lexeme.identifier (by simp) fun d hd => ?_
        rcases List.mem_append.mp hd with hd | hd
        · exact hletters d hd
        · rw [List.mem_singleton.mp hd]
          simpa using hletter
      have hle := h.longest _ _ hlonger ⟨more, by simp⟩
      rw [List.length_append, List.length_singleton] at hle
      omega
    show ¬large.isLetter c = true
    rw [Bool.not_eq_true]
    rcases hrest c hc with hletter | rfl | ⟨rule, hrule, hstarts⟩
    · rw [hold] at hletter
      exact absurd hletter (by decide)
    · exact hext.isLetter_space hold
    · exact hext.isLetter_of_starts hstarts hrule hold

/-- A rule that applies where no letter stands applies to the smaller surface too. -/
theorem Rule.Applies.restrict (h : rule.Applies large (c :: rest))
    (hletter : large.isLetter c = false) (hoperators : rule = .operator → small.operators = true) :
    rule.Applies small (c :: rest) := by
  obtain ⟨token, lexeme, hwritten, hfront⟩ := h
  refine ⟨token, lexeme, hwritten.restrict ?_ hoperators, hfront⟩
  rintro rfl
  obtain ⟨d, first, rfl, hd⟩ := hwritten.starts
  obtain rfl := (List.cons_prefix_cons.mp hfront).1
  exact absurd (hletter.symm.trans hd) (by decide)

/-- **Both surfaces pick the same lexeme**, if no new letter follows it. -/
theorem Munch.extend (h : Munch small rule (lexeme ++ rest) token lexeme)
    (hext : large.Extends small) (hrest : small.Closes rest) :
    Munch large rule (lexeme ++ rest) token lexeme := by
  by_cases hrule : rule = .identifier
  · subst hrule
    refine ⟨h.toLongest.extend_identifier hext hrest, fun earlier hrank => ?_⟩
    exact absurd hrank (Nat.not_lt_zero _)
  · have hoperators : rule = .operator → small.operators = true := by
      rintro rfl
      exact Rule.isOffered_of_applies h.applies
    have hlongest : rule.Longest large (lexeme ++ rest) token lexeme :=
      ⟨h.written.extend hext, h.front, fun token' lexeme' hwritten hfront =>
        h.longest token' lexeme' (hwritten.restrict hrule hoperators) hfront⟩
    refine ⟨hlongest, fun earlier hrank happlies => ?_⟩
    obtain ⟨c, more, htext, hstarts⟩ := h.applies.starts
    rw [htext] at h happlies
    have hletter := hext.isLetter_of_starts hstarts hrule (h.isLetter_eq_false hrule)
    refine h.first earlier hrank (happlies.restrict hletter ?_)
    -- literals and line breaks do not start like operators
    rintro rfl
    obtain ⟨d, first, heq, hd⟩ := happlies.starts
    obtain rfl := (List.cons.inj heq).1
    have hsame := (Rule.ofReserved?_of_starts hd (by decide)).symm.trans
      (Rule.ofReserved?_of_starts hstarts hrule)
    rw [Option.some.inj hsame] at hrank
    exact absurd hrank (lt_irrefl _)

/-- A text that is cut to its end is cut in the same way by the larger surface. -/
theorem Segmentation.extend {cut : Cut} (h : Segmentation small text cut)
    (hext : large.Extends small) (hstop : cut.stop? = none) : Segmentation large text cut := by
  induction h with
  | @stop text stop? hending =>
    obtain rfl : text = [] := hending.eq_nil_iff.mpr hstop
    obtain rfl : stop? = none := hstop
    exact Segmentation.stop Ending.done
  | spaces hcount hrest _ ih => exact Segmentation.spaces hcount hrest (ih hstop)
  | lexeme hspace hmunch hmore ih =>
    exact Segmentation.lexeme hspace (hmunch.extend hext (hmore.closes hstop)) (ih hstop)

/-! ## Lexing in a larger dialect -/

namespace Dialect

/-- The dialect is larger than another one. -/
def Extends (large small : Dialect) : Prop := large.surface.Extends small.surface

/-- The class text of the larger dialect has all items of that of the smaller one, and its other
letters are not reserved. -/
theorem Extends.of_letterItems {small large : Dialect}
    (hitems : small.letterItems.all (large.letterItems.contains ·) = true)
    (hoperators : small.operators = true → large.operators = true)
    (hfresh : (Surface.reserved.all fun c =>
      !large.isLetter c || small.isLetter c || c == '.' || c == '=') = true) :
    large.Extends small := by
  refine ⟨fun c hc => ?_, hoperators, fun c hc hnew hold => ?_⟩
  · obtain ⟨item, hitem, hcovers⟩ := List.any_eq_true.mp hc
    have hmem := List.all_eq_true.mp hitems item hitem
    exact List.any_eq_true.mpr ⟨item, by simpa using hmem, hcovers⟩
  · have hnew' : large.isLetter c = true := hnew
    have hold' : small.isLetter c = false := hold
    simpa [hnew', hold'] using List.all_eq_true.mp hfresh c hc

theorem full_extends_reduced : full.Extends reduced :=
  Extends.of_letterItems (by decide +kernel) (fun _ => rfl) (by decide +kernel)

/-- Without a failure, both dialects lex a text alike. -/
theorem Extends.lex_eq {small large : Dialect} (h : large.Extends small) {text : Text}
    (hok : (small.lex text).ok = true) : large.lex text = small.lex text := by
  have hcut := (segmentation_cut small.surface text).extend h (lex_ok_iff.mp hok)
  rw [lex, hcut.cut_eq, lex]

/-- **A larger dialect is a conservative extension.** A text that the smaller dialect lexes without
a failure is lexed by the larger one without a failure too, and to the same tokens at the same
positions. So every program of the reduced dialect means the same in the full one. -/
theorem lex_of_extends :
    (∀ small large : Dialect, large.Extends small → ∀ text, (small.lex text).ok = true →
      (large.lex text).ok = true ∧ (large.lex text).tokens = (small.lex text).tokens) ∧
    ∀ text, (reduced.lex text).ok = true →
      (full.lex text).ok = true ∧ (full.lex text).tokens = (reduced.lex text).tokens := by
  have hextends : ∀ small large : Dialect, large.Extends small → ∀ text,
      (small.lex text).ok = true →
      (large.lex text).ok = true ∧ (large.lex text).tokens = (small.lex text).tokens := by
    intro small large h text hok
    rw [h.lex_eq hok]
    exact ⟨hok, rfl⟩
  exact ⟨hextends, hextends reduced full full_extends_reduced⟩

/-- The full dialect with the point, the equals sign and the underscore as letters. -/
def pointed : Dialect := ⟨"a-zа-я.=_".toList, true, true, by decide +kernel⟩

/-- Where the point and the equals sign are letters, numbers and operators still have theirs. -/
theorem lex_of_extends_pointed :
    pointed.Extends full ∧ (full.lex "x+=1.5 'b='\r\n".toList).ok = true ∧
      (pointed.lex "x+=1.5 'b='\r\n".toList).ok = true ∧
      (pointed.lex "x+=1.5 'b='\r\n".toList).tokens =
        [⟨.identifier ['x'], ⟨1, 1⟩⟩, ⟨.operator .addAssign, ⟨1, 2⟩⟩,
          ⟨.number ⟨false, .nearest 15 10⟩, ⟨1, 4⟩⟩, ⟨.string "'b='".toList, ⟨1, 8⟩⟩,
          ⟨.lineBreak, ⟨1, 12⟩⟩] := by
  have hextends : pointed.Extends full :=
    Extends.of_letterItems (by decide +kernel) (fun h => h) (by decide +kernel)
  have hok : (full.lex "x+=1.5 'b='\r\n".toList).ok = true := by decide +kernel
  obtain ⟨hpointed, htokens⟩ := lex_of_extends.1 full pointed hextends _ hok
  exact ⟨hextends, hok, hpointed, htokens.trans (by decide +kernel)⟩

end Dialect

end ScriptLexer
