import ScriptLexer.Proofs.Text.Uppercase
import ScriptLexer.Proofs.Validation

set_option autoImplicit false

/-! # Letters without regard to case

A dialect without regard to case has the upper-case alphabet written behind the alphabet, and the
class text is read as a whole. The alphabet itself keeps its letters, wherever hyphens stand
(`Dialect.isLetter_of_caseSensitive`). The upper-case alphabet adds its own if no range reaches
across the seam, so if the alphabet neither starts nor ends with a hyphen; otherwise the range
across the seam takes the place of the items around it (`Dialect.make_caseInsensitive`). -/

namespace ScriptLexer

namespace Dialect

variable {alphabet : Text} {operators : Bool}

theorem isLetter_of_make {caseInsensitive : Bool} {dialect : Dialect}
    (h : make alphabet caseInsensitive operators = .ok dialect) (c : Char) :
    dialect.isLetter c =
      (ClassItem.ofText (letterClass alphabet caseInsensitive)).any (·.covers c) := by
  rw [isLetter, letterItems_of_make h]

/-- An admissible alphabet makes a dialect if the items of its class text are ordered. -/
theorem exists_make (hadmissible : Admissible alphabet) (caseInsensitive operators : Bool) :
    (∃ dialect, make alphabet caseInsensitive operators = .ok dialect) ↔
      ClassItem.Ordered (ClassItem.ofText (letterClass alphabet caseInsensitive)) := by
  rw [exists_make_iff, fault?_eq_none_iff, and_iff_right hadmissible]

theorem letterClass_true (alphabet : Text) :
    letterClass alphabet true = alphabet ++ Text.uppercase alphabet := rfl

theorem letterClass_false (alphabet : Text) : letterClass alphabet false = alphabet := rfl

/-! ## The alphabet keeps its letters -/

/-- What is accepted without regard to case is accepted with it. -/
theorem exists_make_caseSensitive {insensitive : Dialect}
    (h : make alphabet true operators = .ok insensitive) :
    ∃ sensitive, make alphabet false operators = .ok sensitive := by
  obtain ⟨hadmissible, hordered⟩ := fault?_eq_none_iff.mp (fault?_of_make h)
  rw [letterClass_true] at hordered
  have hfront : ClassItem.Ordered (ClassItem.ofText (letterClass alphabet false)) :=
    ClassItem.ordered_of_append hordered
  exact (exists_make hadmissible false operators).mpr hfront

/-- **Switching regard to case on is always possible, and it adds no letters.** If an alphabet is
accepted without regard to case, it is accepted with regard to case, and all letters of that
dialect are letters of the first one. -/
theorem isLetter_of_caseSensitive {insensitive : Dialect}
    (h : make alphabet true operators = .ok insensitive) :
    ∃ sensitive, make alphabet false operators = .ok sensitive ∧
      ∀ c, sensitive.isLetter c = true → insensitive.isLetter c = true := by
  obtain ⟨-, hordered⟩ := fault?_eq_none_iff.mp (fault?_of_make h)
  rw [letterClass_true] at hordered
  obtain ⟨sensitive, hsensitive⟩ := exists_make_caseSensitive h
  refine ⟨sensitive, hsensitive, fun c hc => ?_⟩
  rw [isLetter_of_make hsensitive, letterClass_false] at hc
  rw [isLetter_of_make h, letterClass_true]
  exact ClassItem.any_covers_append hordered Text.getLast?_uppercase hc

/-- An alphabet with a hyphen at its end, which is in a range as soon as upper-case letters follow
it. -/
theorem isLetter_of_caseSensitive_hyphen :
    ∃ insensitive, make "a-z+-".toList true true = .ok insensitive ∧
      ∃ sensitive, make "a-z+-".toList false true = .ok sensitive ∧
        sensitive.isLetter '-' = true ∧ insensitive.isLetter '-' = true := by
  obtain ⟨insensitive, h⟩ := (@exists_make_iff "a-z+-".toList true true).mpr (by decide)
  obtain ⟨sensitive, hsensitive, hletters⟩ := isLetter_of_caseSensitive h
  have hhyphen : sensitive.isLetter '-' = true := by
    rw [isLetter_of_make hsensitive]
    decide
  exact ⟨insensitive, h, sensitive, hsensitive, hhyphen, hletters '-' hhyphen⟩

/-! ## The upper-case alphabet -/

/-- A range reaches across the seam only if there is a hyphen at an end of the alphabet. -/
theorem seam?_uppercase (hhead : alphabet.head? ≠ some '-')
    (hlast : alphabet.getLast? ≠ some '-') :
    ClassItem.seam? alphabet (Text.uppercase alphabet) = none := by
  rw [Option.eq_none_iff_forall_ne_some]
  intro seam hseam
  rcases ClassItem.hyphen_of_seam hseam with h | h
  · exact hlast h
  · exact Text.head?_uppercase hhead h

/-- **What the upper-case alphabet adds.** Let an alphabet and its upper case both be accepted with
regard to case. If no range reaches across the seam, the alphabet is accepted without regard to
case, and the letters are those of the two. If a range does, the alphabet is accepted exactly if
this range and those in the rest of the upper-case alphabet do not run backwards, and the letters
are those in front of the range, in it and in the rest. Without a hyphen at its ends, an alphabet is
of the first kind. -/
theorem make_caseInsensitive {lower upper : Dialect}
    (hlower : make alphabet false operators = .ok lower)
    (hupper : make (Text.uppercase alphabet) false operators = .ok upper) :
    (ClassItem.seam? alphabet (Text.uppercase alphabet) = none →
      ∃ dialect, make alphabet true operators = .ok dialect ∧
        ∀ c, dialect.isLetter c = (lower.isLetter c || upper.isLetter c)) ∧
    (∀ seam, ClassItem.seam? alphabet (Text.uppercase alphabet) = some seam →
      ((∃ dialect, make alphabet true operators = .ok dialect) ↔
        seam.low ≤ seam.high ∧ ClassItem.Ordered (ClassItem.ofText seam.rest)) ∧
      ∀ dialect, make alphabet true operators = .ok dialect → ∀ c, dialect.isLetter c =
        (ClassItem.settled alphabet ++ .range seam.low seam.high ::
          ClassItem.ofText seam.rest).any (·.covers c)) ∧
    (alphabet.head? ≠ some '-' → alphabet.getLast? ≠ some '-' →
      ClassItem.seam? alphabet (Text.uppercase alphabet) = none) := by
  obtain ⟨hadmissible, hfront⟩ := fault?_eq_none_iff.mp (fault?_of_make hlower)
  have hback := (fault?_eq_none_iff.mp (fault?_of_make hupper)).2
  rw [letterClass_false] at hfront hback
  refine ⟨fun hseam => ?_, fun seam hseam => ⟨?_, fun dialect hmake c => ?_⟩, seam?_uppercase⟩
  · have hitems := ClassItem.ofText_append_of_not_seam hseam
    have hordered : ClassItem.Ordered (ClassItem.ofText (letterClass alphabet true)) := by
      rw [letterClass_true, hitems, ClassItem.ordered_append]
      exact ⟨hfront, hback⟩
    obtain ⟨dialect, hmake⟩ := (exists_make hadmissible true operators).mpr hordered
    refine ⟨dialect, hmake, fun c => ?_⟩
    rw [isLetter_of_make hmake, isLetter_of_make hlower, isLetter_of_make hupper,
      letterClass_true, letterClass_false, letterClass_false, hitems, List.any_append]
  · -- the items in front of the range are those of the alphabet, so they are ordered
    rw [ClassItem.ofText_eq, ClassItem.ordered_append] at hfront
    rw [exists_make hadmissible, letterClass_true, ClassItem.ofText_append_of_seam hseam,
      ClassItem.ordered_append, ClassItem.ordered_range, and_iff_right hfront.1]
  · rw [isLetter_of_make hmake, letterClass_true, ClassItem.ofText_append_of_seam hseam]

/-- A hyphen at the end of an alphabet and the first upper-case letter make a range: most letters
of the upper-case alphabet are lost. -/
theorem make_caseInsensitive_hyphen :
    (∃ lower, make "a-z+-".toList false true = .ok lower) ∧
      (∃ upper, make (Text.uppercase "a-z+-".toList) false true = .ok upper ∧
        upper.isLetter 'B' = true) ∧
      ∃ dialect, make "a-z+-".toList true true = .ok dialect ∧ dialect.isLetter 'B' = false := by
  obtain ⟨lower, hlower⟩ := (@exists_make_iff "a-z+-".toList false true).mpr (by decide)
  obtain ⟨upper, hupper⟩ :=
    (@exists_make_iff (Text.uppercase "a-z+-".toList) false true).mpr (by decide)
  have hseam : ClassItem.seam? "a-z+-".toList (Text.uppercase "a-z+-".toList) =
      some ⟨'+', 'A', "-Z+-".toList⟩ := by decide
  obtain ⟨haccepted, hletters⟩ := (make_caseInsensitive hlower hupper).2.1 _ hseam
  obtain ⟨dialect, hmake⟩ := haccepted.mpr
    ⟨by decide, ReversedRange.first?_eq_none_iff.mp (by decide)⟩
  refine ⟨⟨lower, hlower⟩, ⟨upper, hupper, ?_⟩, dialect, hmake, ?_⟩
  · rw [isLetter_of_make hupper]
    decide
  · rw [hletters dialect hmake]
    decide

/-- An alphabet and its upper case may both be accepted, and the two together not. -/
theorem not_forall_make_caseInsensitive :
    ¬∀ (alphabet : Text) (operators : Bool) (lower upper : Dialect),
      make alphabet false operators = .ok lower →
      make (Text.uppercase alphabet) false operators = .ok upper →
      ∃ dialect, make alphabet true operators = .ok dialect ∧
        ∀ c, dialect.isLetter c = (lower.isLetter c || upper.isLetter c) := by
  intro h
  -- a class of letters, the underscore and the hyphen, which makes a range with the first `A`
  obtain ⟨lower, hlower⟩ := (@exists_make_iff "a-z_-".toList false true).mpr (by decide)
  obtain ⟨upper, hupper⟩ :=
    (@exists_make_iff (Text.uppercase "a-z_-".toList) false true).mpr (by decide)
  obtain ⟨dialect, hmake, -⟩ := h _ _ lower upper hlower hupper
  have hfault : fault? "a-z_-".toList true ≠ none := by decide
  exact hfault (fault?_of_make hmake)

end Dialect

end ScriptLexer
