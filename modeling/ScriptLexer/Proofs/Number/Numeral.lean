import ScriptLexer.Number.Numeral
import Mathlib.Data.List.TakeWhile

set_option autoImplicit false

/-! # Numerals and the numbers they spell

A numeral is a run of ASCII digits, or two such runs with a point between them (`IsNumeral`).
The numeral found at the front of a text is the longest one there (`exists_atFront?_of_prefix`),
and its value is the number that its characters spell (`ofText?_lexeme`). -/

namespace ScriptLexer.Numeral

/-- A run of digits that is not empty. -/
def IsDigits (s : Text) : Prop := s ≠ [] ∧ ∀ c ∈ s, c.isDigit = true

/-- The text is a numeral: digits, with or without a point and more digits after them. -/
inductive IsNumeral : Text → Prop where
  | whole {digits : Text} (hdigits : IsDigits digits) : IsNumeral digits
  | decimal {digits fraction : Text} (hdigits : IsDigits digits) (hfraction : IsDigits fraction) :
      IsNumeral (digits ++ '.' :: fraction)

/-- The parts of a numeral are digits, and there is at least one before the point. -/
structure WellFormed (numeral : Numeral) : Prop where
  whole : IsDigits numeral.whole
  fraction : ∀ c ∈ numeral.fraction, c.isDigit = true

theorem WellFormed.isNumeral {numeral : Numeral} (h : numeral.WellFormed) :
    IsNumeral numeral.lexeme := by
  simp only [lexeme, List.isEmpty_iff]
  split
  · exact IsNumeral.whole h.whole
  next hne => exact IsNumeral.decimal h.whole ⟨hne, h.fraction⟩

theorem IsNumeral.exists_wellFormed {s : Text} (h : IsNumeral s) :
    ∃ numeral : Numeral, numeral.WellFormed ∧ numeral.lexeme = s := by
  cases h with
  | whole hdigits => exact ⟨⟨s, []⟩, ⟨hdigits, by simp⟩, rfl⟩
  | @decimal digits fraction hdigits hfraction =>
    exact ⟨⟨digits, fraction⟩, ⟨hdigits, hfraction.2⟩, if_neg (by simpa using hfraction.1)⟩

theorem IsDigits.exists_cons {s : Text} (h : IsDigits s) :
    ∃ c rest, s = c :: rest ∧ c.isDigit = true := by
  cases s with
  | nil => exact absurd rfl h.1
  | cons c rest => exact ⟨c, rest, rfl, h.2 c (by simp)⟩

theorem IsNumeral.exists_cons {s : Text} (h : IsNumeral s) :
    ∃ c rest, s = c :: rest ∧ c.isDigit = true := by
  cases h with
  | whole hdigits => exact hdigits.exists_cons
  | decimal hdigits hfraction =>
    obtain ⟨c, rest, rfl, hc⟩ := hdigits.exists_cons
    exact ⟨c, _, rfl, hc⟩

theorem IsNumeral.mem {s : Text} (h : IsNumeral s) {c : Char} (hc : c ∈ s) :
    c.isDigit = true ∨ c = '.' := by
  cases h with
  | whole hdigits => exact Or.inl (hdigits.2 c hc)
  | decimal hdigits hfraction =>
    simp only [List.mem_append, List.mem_cons] at hc
    rcases hc with hc | rfl | hc
    · exact Or.inl (hdigits.2 c hc)
    · exact Or.inr rfl
    · exact Or.inl (hfraction.2 c hc)

/-! ## Shorter numerals in a numeral

Cut anywhere, a numeral gives a numeral again, except right after the point; so of two
neighbouring cuts one does. -/

theorem IsDigits.take {digits : Text} (h : IsDigits digits) {n : Nat} (hn : 0 < n) :
    IsDigits (digits.take n) := by
  refine ⟨?_, fun c hc => h.2 c (List.mem_of_mem_take hc)⟩
  rw [Ne, List.take_eq_nil_iff]
  rintro (h0 | hnil)
  · omega
  · exact h.1 hnil

theorem IsNumeral.exists_take {s : Text} (h : IsNumeral s) {n : Nat} (hn : 0 < n)
    (hle : n ≤ s.length) :
    ∃ m, n ≤ m ∧ m ≤ n + 1 ∧ m ≤ s.length ∧ IsNumeral (s.take m) := by
  cases h with
  | whole hdigits => exact ⟨n, le_rfl, by omega, hle, IsNumeral.whole (hdigits.take hn)⟩
  | @decimal digits fraction hdigits hfraction =>
    have hpos : 0 < fraction.length := List.length_pos_iff.mpr hfraction.1
    simp only [List.length_append, List.length_cons] at hle ⊢
    by_cases hshort : n ≤ digits.length
    · refine ⟨n, le_rfl, by omega, by omega, ?_⟩
      rw [List.take_append_of_le_length hshort]
      exact IsNumeral.whole (hdigits.take hn)
    · -- a cut behind the point, at least one digit of the fraction included
      have hdecimal : ∀ k, 0 < k → IsNumeral
          ((digits ++ '.' :: fraction).take (digits.length + 1 + k)) := by
        intro k hk
        rw [List.take_append, List.take_of_length_le (by omega)]
        have hk' : digits.length + 1 + k - digits.length = k + 1 := by omega
        rw [hk', List.take_succ_cons]
        exact IsNumeral.decimal hdigits (hfraction.take hk)
      by_cases hpoint : n = digits.length + 1
      · exact ⟨digits.length + 1 + 1, by omega, by omega, by omega, hdecimal 1 (by omega)⟩
      · refine ⟨n, le_rfl, by omega, by omega, ?_⟩
        have hn' : n = digits.length + 1 + (n - digits.length - 1) := by omega
        rw [hn']
        exact hdecimal _ (by omega)

/-! ## The numeral at the front of a text -/

theorem wellFormed_of_atFront? {text : Text} {numeral : Numeral}
    (h : atFront? text = some numeral) : numeral.WellFormed := by
  simp only [atFront?] at h
  split at h
  · simp at h
  next hne =>
    obtain rfl := Option.some.inj h
    refine ⟨⟨by simpa using hne, fun c hc => List.mem_takeWhile_imp hc⟩, fun c hc => ?_⟩
    simp only [fractionAtFront] at hc
    split at hc
    · exact List.mem_takeWhile_imp hc
    · simp at hc

theorem lexeme_prefix_of_atFront? {text : Text} {numeral : Numeral}
    (h : atFront? text = some numeral) : numeral.lexeme <+: text := by
  simp only [atFront?] at h
  split at h
  · simp at h
  · obtain rfl := Option.some.inj h
    have hsplit : text.takeWhile Char.isDigit ++ text.dropWhile Char.isDigit = text :=
      List.takeWhile_append_dropWhile
    simp only [lexeme]
    split
    · exact List.takeWhile_prefix _
    next hfraction =>
      -- the fraction is not empty, so a point stands after the digits
      have hpoint : '.' :: fractionAtFront (text.dropWhile Char.isDigit) <+:
          text.dropWhile Char.isDigit := by
        simp only [fractionAtFront] at hfraction ⊢
        split at hfraction
        next rest heq =>
          rw [heq]
          exact List.cons_prefix_cons.mpr ⟨rfl, List.takeWhile_prefix _⟩
        · simp at hfraction
      have := (List.prefix_append_right_inj (text.takeWhile Char.isDigit)).mpr hpoint
      rwa [hsplit] at this

/-- Every numeral at the front of a text is found there, or a longer one. -/
theorem exists_atFront?_of_prefix {s text : Text} (hs : IsNumeral s) (hfront : s <+: text) :
    ∃ numeral, atFront? text = some numeral ∧ s.length ≤ numeral.lexeme.length := by
  obtain ⟨rest, rfl⟩ := hfront
  cases hs with
  | whole hdigits =>
    have hne : ¬((s ++ rest).takeWhile Char.isDigit).isEmpty = true := by
      simp [List.takeWhile_append_of_pos hdigits.2, hdigits.1]
    refine ⟨_, if_neg hne, ?_⟩
    simp only [lexeme, List.takeWhile_append_of_pos hdigits.2]
    split <;> simp only [List.length_append] <;> omega
  | @decimal digits fraction hdigits hfraction =>
    -- the run of digits ends at the point, and the digits behind it include the fraction
    have htake : (digits ++ '.' :: fraction ++ rest).takeWhile Char.isDigit = digits := by
      rw [List.append_assoc, List.takeWhile_append_of_pos hdigits.2]
      simp
    have hdrop : (digits ++ '.' :: fraction ++ rest).dropWhile Char.isDigit =
        '.' :: (fraction ++ rest) := by
      rw [List.append_assoc, List.dropWhile_append_of_pos hdigits.2]
      simp
    have hne : ¬((digits ++ '.' :: fraction ++ rest).takeWhile Char.isDigit).isEmpty = true := by
      rw [htake, List.isEmpty_iff]
      exact hdigits.1
    refine ⟨_, if_neg hne, ?_⟩
    simp only [lexeme, htake, hdrop, fractionAtFront, List.takeWhile_append_of_pos hfraction.2]
    rw [if_neg (by simp [hfraction.1])]
    simp only [List.length_append, List.length_cons]
    omega

/-! ## The number that a numeral spells -/

theorem toLower_of_isDigit {c : Char} (hc : c.isDigit = true) : c.toLower = c := by
  have hle : c.val ≤ '9'.val := by
    simp only [Char.isDigit, Bool.and_eq_true, decide_eq_true_eq] at hc
    exact hc.2
  refine dif_neg ?_
  rintro ⟨hge, -⟩
  exact absurd (UInt32.le_trans hge hle) (by decide)

/-- A text that starts with a digit is none of the words for an infinite size. -/
theorem not_infinityWord {c : Char} (hc : c.isDigit = true) (rest : Text) :
    Magnitude.infinityWords.contains ((c :: rest).map Char.toLower) = false := by
  have hi : c ≠ 'i' := by
    rintro rfl
    exact absurd hc (by decide)
  simp [Magnitude.infinityWords, toLower_of_isDigit hc, hi]

/-- A well-formed numeral spells the decimal of its two parts, times the power of ten that an
exponent behind it tells. -/
theorem WellFormed.decimal_ofText?_append {numeral : Numeral} (h : numeral.WellFormed)
    {more : Text} (hmore : ∀ c ∈ more.head?, c.isDigit = false ∧ c ≠ '.') :
    Decimal.ofText? (numeral.lexeme ++ more) = (Decimal.exponentOfText? more).map fun power =>
      ⟨Decimal.ofDigits (numeral.whole ++ numeral.fraction),
        -(numeral.fraction.length : Int) + power⟩ := by
  have hwhole : numeral.whole.isEmpty = false := by simpa using h.whole.1
  have htake : more.takeWhile Char.isDigit = [] := by
    cases more with
    | nil => rfl
    | cons c more => simp [(hmore c rfl).1]
  have hdrop : more.dropWhile Char.isDigit = more := by
    cases more with
    | nil => rfl
    | cons c more => simp [(hmore c rfl).1]
  by_cases hfraction : numeral.fraction = []
  · have hlexeme : numeral.lexeme = numeral.whole := by simp [lexeme, hfraction]
    unfold Decimal.ofText?
    rw [hlexeme, List.takeWhile_append_of_pos h.whole.2, List.dropWhile_append_of_pos h.whole.2,
      htake, hdrop, hfraction]
    cases more with
    | nil => simp [Decimal.ofParts, hwhole]
    | cons c more =>
      have hpoint : c ≠ '.' := (hmore c rfl).2
      simp [Decimal.ofParts, hwhole, hpoint]
  · have hlexeme : numeral.lexeme ++ more = numeral.whole ++ '.' :: (numeral.fraction ++ more) := by
      simp [lexeme, hfraction]
    have hstop : ('.' :: (numeral.fraction ++ more)).takeWhile Char.isDigit = [] := by simp
    have hrest : ('.' :: (numeral.fraction ++ more)).dropWhile Char.isDigit =
        '.' :: (numeral.fraction ++ more) := by simp
    unfold Decimal.ofText?
    rw [hlexeme, List.takeWhile_append_of_pos h.whole.2, List.dropWhile_append_of_pos h.whole.2,
      hstop, hrest]
    simp only [List.takeWhile_append_of_pos h.fraction, List.dropWhile_append_of_pos h.fraction,
      htake, hdrop, List.append_nil, hwhole, Bool.false_and]
    rfl

/-- A well-formed numeral spells the decimal of its two parts. -/
theorem WellFormed.decimal_ofText?_lexeme {numeral : Numeral} (h : numeral.WellFormed) :
    Decimal.ofText? numeral.lexeme =
      some (Decimal.ofParts numeral.whole numeral.fraction) := by
  have happend := @decimal_ofText?_append _ h [] fun c hc => absurd hc (by simp)
  rw [List.append_nil] at happend
  rw [happend, Decimal.ofParts]
  simp [Decimal.exponentOfText?]

/-- The value of a numeral is the number that its characters spell. -/
theorem WellFormed.ofText?_lexeme {numeral : Numeral} (h : numeral.WellFormed) :
    Number.ofText? numeral.lexeme = some numeral.value := by
  have hdecimal := h.decimal_ofText?_lexeme
  obtain ⟨c, rest, heq, hc⟩ := h.isNumeral.exists_cons
  rw [heq] at hdecimal ⊢
  have hmagnitude : Magnitude.ofText? (c :: rest) =
      some (Decimal.ofParts numeral.whole numeral.fraction).nearest := by
    rw [Magnitude.ofText?, if_neg (by rw [not_infinityWord hc]; decide), hdecimal, Option.map_some]
  -- a text that starts with a digit has no sign
  rw [Number.ofText?, hmagnitude]
  · rfl
  · rintro text ⟨⟩
    exact absurd hc (by decide)
  · rintro text ⟨⟩
    exact absurd hc (by decide)

theorem IsNumeral.exists_ofText? {s : Text} (h : IsNumeral s) :
    ∃ value, Number.ofText? s = some value := by
  obtain ⟨numeral, hnumeral, rfl⟩ := h.exists_wellFormed
  exact ⟨numeral.value, hnumeral.ofText?_lexeme⟩

end ScriptLexer.Numeral
