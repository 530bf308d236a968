import ScriptLexer.Proofs.CaseInsensitive
import ScriptLexer.Proofs.Faithful

set_option autoImplicit false

/-! # The upper case of letters

A dialect without regard to case changes the text of its alphabet to upper case, not the set of its
letters: a character that stands in the class text keeps its upper case as a letter, but of a range
only the ends are changed. So a letter strictly inside a range can have an upper case that is no
letter of the dialect (`Dialect.LosesCase`), and no other letter can. A name in upper case is an
identifier again if it has none of these letters (`Dialect.lex_uppercase`). -/

namespace ScriptLexer

namespace ClassItem

variable {text : Text} {c : Char}

theorem mem_of_mem_item {item : ClassItem} (hitem : item ∈ ofText text) (hc : c ∈ item.text) :
    c ∈ text := by
  rw [← (divides_ofText text).flatMap_text]
  exact List.mem_flatMap.mpr ⟨item, hitem, hc⟩

/-- In ordered items, the characters of a class text are letters of the class, the hyphens that make
ranges aside. -/
theorem any_covers_of_mem (hordered : Ordered (ofText text)) (hmem : c ∈ text) (hne : c ≠ '-') :
    (ofText text).any (·.covers c) = true := by
  have hitems : c ∈ (ofText text).flatMap ClassItem.text := by
    rwa [(divides_ofText text).flatMap_text]
  obtain ⟨item, hitem, hc⟩ := List.mem_flatMap.mp hitems
  refine List.any_eq_true.mpr ⟨item, hitem, ?_⟩
  cases item with
  | letter own =>
    obtain rfl : c = own := by simpa [ClassItem.text] using hc
    simp [covers]
  | range low high =>
    have hle := hordered low high hitem
    simp only [ClassItem.text, List.mem_cons, hne, List.not_mem_nil, or_false, false_or] at hc
    rcases hc with rfl | rfl
    · simp [covers, hle]
    · simp [covers, hle]

/-- A letter of a class stands in the class text or strictly inside a range. -/
theorem mem_or_inside (h : (ofText text).any (·.covers c) = true) :
    c ∈ text ∨ ∃ low high, .range low high ∈ ofText text ∧ low < c ∧ c < high := by
  rcases any_covers_iff.mp h with hitem | ⟨low, high, hitem, hlow, hhigh⟩
  · exact Or.inl (mem_of_mem_item hitem (by simp [ClassItem.text]))
  · by_cases hends : c = low ∨ c = high
    · refine Or.inl (mem_of_mem_item hitem ?_)
      rcases hends with rfl | rfl
      · simp [ClassItem.text]
      · simp [ClassItem.text]
    · rw [not_or] at hends
      exact Or.inr ⟨low, high, hitem,
        Char.not_le.mp fun hle => hends.1 (Char.le_antisymm hle hlow),
        Char.not_le.mp fun hle => hends.2 (Char.le_antisymm hhigh hle)⟩

/-- The item with its letter changed, or the ends of its range. -/
def map (change : Char → Char) : ClassItem → ClassItem
  | .letter c => .letter (change c)
  | .range low high => .range (change low) (change high)

/-- A change that keeps the hyphens, and makes no others, keeps the division of a class text. -/
theorem ofText_map {change : Char → Char} (h : ∀ c, change c = '-' ↔ c = '-') (text : Text) :
    ofText (text.map change) = (ofText text).map (map change) := by
  have hhyphen : change '-' = '-' := (h '-').mpr rfl
  have hdivides := divides_ofText text
  symm
  rw [← divides_iff]
  generalize ofText text = items at hdivides ⊢
  induction hdivides with
  | nil => exact Divides.nil
  | range _ ih =>
    simp only [List.map_cons, hhyphen]
    exact Divides.range ih
  | final =>
    simp only [List.map_cons, List.map_nil, map, hhyphen]
    exact Divides.final
  | letter hrest _ ih =>
    refine Divides.letter ?_ ih
    simpa [List.head?_map, h] using hrest

end ClassItem

namespace Text

variable {c : Char} {text : Text}

/-- The upper case of a character that has one of a single character. -/
def raise (c : Char) : Char := (uppercaseChar c).headD c

/-- The upper case of the character is a single character. -/
def HasSingleUppercase (c : Char) : Prop := uppercaseChar c = [raise c]

/-- Single upper cases can be checked one by one. -/
theorem hasSingleUppercase_of_all (h : (text.all fun c => uppercaseChar c == [raise c]) = true) :
    ∀ c ∈ text, HasSingleUppercase c :=
  fun c hc => eq_of_beq (List.all_eq_true.mp h c hc)

theorem raise_mem (c : Char) : raise c ∈ uppercaseChar c := by
  obtain ⟨d, more, h⟩ := List.exists_cons_of_ne_nil (uppercaseChar_ne_nil c)
  rw [raise, h]
  exact List.mem_cons_self

theorem raise_eq_hyphen_iff (c : Char) : raise c = '-' ↔ c = '-' := by
  constructor
  · intro h
    have hmem := raise_mem c
    rw [h] at hmem
    exact (eq_of_mem_uppercaseChar (by decide) hmem).symm
  · rintro rfl
    rw [raise, uppercaseChar_hyphen]
    rfl

theorem uppercase_eq_map (h : ∀ c ∈ text, HasSingleUppercase c) :
    uppercase text = text.map raise := by
  rw [uppercase, ← List.flatMap_singleton' (text.map raise), List.flatMap_map]
  exact List.flatMap_congr h

end Text

namespace Dialect

variable {dialect : Dialect} {alphabet : Text} {caseInsensitive operators : Bool} {c x u : Char}

/-! ## Letters -/

theorem isLetter_of_mem (hmake : make alphabet caseInsensitive operators = .ok dialect)
    (hmem : c ∈ letterClass alphabet caseInsensitive) (hne : c ≠ '-') :
    dialect.isLetter c = true := by
  obtain ⟨-, hordered⟩ := fault?_eq_none_iff.mp (fault?_of_make hmake)
  rw [isLetter_of_make hmake]
  exact ClassItem.any_covers_of_mem hordered hmem hne

/-- The upper case of a character of the class text is in the class text. -/
theorem mem_letterClass_of_mem (hx : x ∈ letterClass alphabet true)
    (hu : u ∈ Text.uppercaseChar x) : u ∈ letterClass alphabet true := by
  rw [letterClass_true, List.mem_append] at hx ⊢
  rcases hx with halphabet | hupper
  · exact Or.inr (List.mem_flatMap.mpr ⟨x, halphabet, hu⟩)
  · -- a character that is in upper case already
    obtain ⟨c, -, hc⟩ := List.mem_flatMap.mp hupper
    rw [Text.uppercaseChar_of_mem hc, List.mem_singleton] at hu
    rw [hu]
    exact Or.inr hupper

/-- The letter has a single upper-case character, and that is no letter of the dialect. -/
def LosesCase (dialect : Dialect) (x : Char) : Prop :=
  dialect.isLetter x = true ∧ Text.HasSingleUppercase x ∧ dialect.isLetter (Text.raise x) = false

/-- A character of the class text does not lose its upper case. -/
theorem LosesCase.not_mem (hmake : make alphabet true operators = .ok dialect)
    (h : dialect.LosesCase x) : x ∉ letterClass alphabet true := by
  obtain ⟨hletter, -, hlost⟩ := h
  intro hx
  have hmem := mem_letterClass_of_mem hx (Text.raise_mem x)
  by_cases hhyphen : Text.raise x = '-'
  · rw [hhyphen, ← (Text.raise_eq_hyphen_iff x).mp hhyphen, hletter] at hlost
    exact absurd hlost (by decide)
  · rw [isLetter_of_mem hmake hmem hhyphen] at hlost
    exact absurd hlost (by decide)

/-- Only the ends of a range are changed to upper case. -/
theorem letterItems_of_single (hmake : make alphabet true operators = .ok dialect)
    (hsingle : ∀ c ∈ alphabet, Text.HasSingleUppercase c)
    (hseam : ClassItem.seam? alphabet (Text.uppercase alphabet) = none) :
    dialect.letterItems =
      ClassItem.ofText alphabet ++ (ClassItem.ofText alphabet).map (ClassItem.map Text.raise) := by
  rw [letterItems_of_make hmake, letterClass_true, ClassItem.ofText_append_of_not_seam hseam,
    Text.uppercase_eq_map hsingle, ClassItem.ofText_map Text.raise_eq_hyphen_iff]

/-! ## Names -/

/-- A text that does not start with a space is one identifier exactly if all its characters are
letters. -/
theorem lex_eq_identifier_iff {text : Text} (hne : text ≠ [])
    (hspace : text.head? ≠ some Text.space) :
    dialect.lex text = ⟨[⟨.identifier text, Position.start⟩], none⟩ ↔
      ∀ c ∈ text, dialect.isLetter c = true := by
  constructor
  · intro hlex
    have htoken : ⟨.identifier text, Position.start⟩ ∈ (dialect.lex text).tokens := by
      rw [hlex]
      exact List.mem_singleton_self _
    obtain ⟨rule, lexeme, hwritten⟩ := exists_lexeme htoken
    cases hwritten with
    | identifier _ hletters => exact hletters
  · intro hletters
    have hlongest : Rule.identifier.Longest dialect.surface (text ++ []) (.identifier text) text :=
      (Lexeme.identifier hne hletters).longest (by simp)
    rw [List.append_nil] at hlongest
    exact lex_munch hspace ⟨hlongest, fun earlier hrank => absurd hrank (Nat.not_lt_zero _)⟩

/-- **The upper case of letters.** In a dialect without regard to case, a letter with a single
upper-case character that is no letter stands strictly inside a range, and not in the class text.
If every character of the alphabet has a single upper case, and no range reaches across the seam,
the letters are those of the alphabet and of the same items with their letters, or the ends of their
ranges, changed to upper case. A name of letters with single upper-case characters is one identifier
of the same length in upper case, exactly if none of its letters loses its upper case. -/
theorem lex_uppercase (hmake : make alphabet true operators = .ok dialect) :
    (∀ x, dialect.LosesCase x → x ∉ dialect.classText ∧
      ∃ low high, .range low high ∈ dialect.letterItems ∧ low < x ∧ x < high) ∧
    ((∀ c ∈ alphabet, Text.HasSingleUppercase c) →
      ClassItem.seam? alphabet (Text.uppercase alphabet) = none →
      dialect.letterItems =
        ClassItem.ofText alphabet ++ (ClassItem.ofText alphabet).map (ClassItem.map Text.raise)) ∧
    ∀ name, name ≠ [] → (∀ c ∈ name, dialect.isLetter c = true) →
      (∀ c ∈ name, Text.HasSingleUppercase c) →
      (Text.uppercase name).head? ≠ some Text.space →
      (Text.uppercase name).length = name.length ∧
      (dialect.lex (Text.uppercase name) =
          ⟨[⟨.identifier (Text.uppercase name), Position.start⟩], none⟩ ↔
        ∀ c ∈ name, ¬dialect.LosesCase c) := by
  refine ⟨fun x hlost => ?_, letterItems_of_single hmake, ?_⟩
  · have hnot := hlost.not_mem hmake
    have hletter := hlost.1
    rw [isLetter_of_make hmake] at hletter
    rw [classText_of_make hmake, letterItems_of_make hmake]
    exact ⟨hnot, (ClassItem.mem_or_inside hletter).resolve_left hnot⟩
  · intro name hne hletters hsingle hspace
    rw [Text.uppercase_eq_map hsingle] at hspace ⊢
    rw [lex_eq_identifier_iff (by simpa using hne) hspace]
    refine ⟨List.length_map _, ?_⟩
    simp only [List.mem_map, forall_exists_index, and_imp, forall_apply_eq_imp_iff₂]
    refine forall₂_congr fun c hc => ?_
    simp [LosesCase, hletters c hc, hsingle c hc]

/-- The small Greek letters from the first one with an accent to the last one, without regard to
case: capital letters without an accent are not among the letters. -/
theorem lex_uppercase_greek :
    ∃ dialect, make "ά-ώ".toList true true = .ok dialect ∧ dialect.LosesCase 'α' ∧
      (∃ low high, .range low high ∈ dialect.letterItems ∧ low < 'α' ∧ 'α' < high) ∧
      (∀ c ∈ "ά-ώ".toList, Text.HasSingleUppercase c) ∧
      ClassItem.seam? "ά-ώ".toList (Text.uppercase "ά-ώ".toList) = none ∧
      (∀ c ∈ "αλφα".toList, dialect.isLetter c = true) ∧
      (∀ c ∈ "αλφα".toList, Text.HasSingleUppercase c) ∧
      dialect.lex "ΑΛΦΑ".toList ≠ ⟨[⟨.identifier "ΑΛΦΑ".toList, Position.start⟩], none⟩ := by
  obtain ⟨dialect, hmake⟩ := (@exists_make_iff "ά-ώ".toList true true).mpr (by decide)
  obtain ⟨hinside, -, hnames⟩ := lex_uppercase hmake
  have hall : ("αλφα".toList.all fun c =>
      (ClassItem.ofText (letterClass "ά-ώ".toList true)).any (·.covers c)) = true := by decide
  have hletters : ∀ c ∈ "αλφα".toList, dialect.isLetter c = true := by
    intro c hc
    rw [isLetter_of_make hmake]
    exact List.all_eq_true.mp hall c hc
  have hsingle : ∀ c ∈ "αλφα".toList, Text.HasSingleUppercase c :=
    Text.hasSingleUppercase_of_all (by decide)
  have hlost : dialect.LosesCase 'α' := by
    refine ⟨hletters 'α' (by decide), hsingle 'α' (by decide), ?_⟩
    rw [isLetter_of_make hmake]
    decide
  refine ⟨dialect, hmake, hlost, (hinside 'α' hlost).2,
    Text.hasSingleUppercase_of_all (by decide), by decide, hletters, hsingle, ?_⟩
  · have hupper : Text.uppercase "αλφα".toList = "ΑΛΦΑ".toList := by decide
    have hname := hnames "αλφα".toList (by decide) hletters hsingle (by rw [hupper]; decide)
    rw [hupper] at hname
    exact fun hlex => hname.2.mp hlex 'α' (by decide) hlost

/-- The upper case of a letter need not be a letter. -/
theorem not_forall_isLetter_uppercase :
    ¬∀ (alphabet : Text) (operators : Bool) (dialect : Dialect),
      make alphabet true operators = .ok dialect → ∀ x u, dialect.isLetter x = true →
        Text.uppercaseChar x = [u] → dialect.isLetter u = true := by
  intro h
  obtain ⟨dialect, hmake⟩ := (@exists_make_iff "ά-ώ".toList true true).mpr (by decide)
  have hsmall : dialect.isLetter 'α' = true := by
    rw [isLetter_of_make hmake]
    decide
  have hcapital := h _ _ dialect hmake 'α' 'Α' hsmall (by decide)
  rw [isLetter_of_make hmake] at hcapital
  exact absurd hcapital (by decide)

end Dialect

end ScriptLexer
