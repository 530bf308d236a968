import ScriptLexer.Lexing
import ScriptLexer.Proofs.LetterClass
import ScriptLexer.Proofs.Separator
import ScriptLexer.Proofs.Text.Uppercase

set_option autoImplicit false

/-! # Accepted alphabets

A dialect is made from an alphabet if the alphabet is admissible and the items of its class text are
ordered (`Dialect.fault?_eq_none_iff`). The letters of the dialect are the characters that the same
items cover, so judging an alphabet and reading identifiers go by one division of the class text
(`Dialect.make_letters`). -/

namespace ScriptLexer

namespace Dialect

variable {alphabet : Text} {caseInsensitive operators : Bool} {dialect : Dialect} {fault : Fault}

/-- What is asked of an alphabet, its ranges aside. -/
structure Admissible (alphabet : Text) : Prop where
  ne_nil : alphabet ≠ []
  caret : alphabet.head? ≠ some '^'
  bracket : ']' ∉ alphabet
  backslash : Text.backslash ∉ alphabet

/-- The upper-case alphabet adds nothing that is refused in an alphabet. -/
theorem Admissible.classText (h : Admissible alphabet) (caseInsensitive : Bool) :
    Admissible (letterClass alphabet caseInsensitive) := by
  cases caseInsensitive with
  | false => exact h
  | true =>
    refine ⟨List.append_ne_nil_of_left_ne_nil h.ne_nil _, ?_, ?_, ?_⟩
    · obtain ⟨c, rest, rfl⟩ := List.exists_cons_of_ne_nil h.ne_nil
      exact h.caret
    · exact List.not_mem_append h.bracket
        fun hmem => h.bracket (Text.mem_of_mem_uppercase (by decide) hmem)
    · exact List.not_mem_append h.backslash
        fun hmem => h.backslash (Text.mem_of_mem_uppercase (by decide) hmem)

/-! ## Faults -/

/-- In an admissible alphabet, only a reversed range can be at fault. -/
theorem Admissible.fault?_eq (h : Admissible alphabet) (caseInsensitive : Bool) :
    fault? alphabet caseInsensitive =
      (ReversedRange.first? (letterClass alphabet caseInsensitive)).map
        (.reversedRange alphabet (letterClass alphabet caseInsensitive)) := by
  have hreserved : (alphabet.any fun c => c == ']' || c == Text.backslash) = false := by
    rw [List.any_eq_false]
    intro c hc
    simp only [Bool.or_eq_true, beq_iff_eq, not_or]
    exact ⟨fun heq => h.bracket (heq ▸ hc), fun heq => h.backslash (heq ▸ hc)⟩
  rw [fault?, if_neg (by simpa using h.ne_nil), if_neg h.caret, hreserved]
  rfl

/-- **An alphabet is accepted if it is admissible and its items are ordered**, and only then. -/
theorem fault?_eq_none_iff : fault? alphabet caseInsensitive = none ↔
    Admissible alphabet ∧
      ClassItem.Ordered (ClassItem.ofText (letterClass alphabet caseInsensitive)) := by
  constructor
  · intro h
    have hadmissible : Admissible alphabet := by
      unfold fault? at h
      split at h
      · simp at h
      next hne =>
      split at h
      · simp at h
      next hcaret =>
      split at h
      · simp at h
      next hreserved =>
      refine ⟨by simpa using hne, hcaret, fun hmem => hreserved ?_, fun hmem => hreserved ?_⟩
      · exact List.any_eq_true.mpr ⟨_, hmem, by decide⟩
      · exact List.any_eq_true.mpr ⟨_, hmem, by decide⟩
    rw [hadmissible.fault?_eq, Option.map_eq_none_iff, ReversedRange.first?_eq_none_iff] at h
    exact ⟨hadmissible, h⟩
  · rintro ⟨hadmissible, hordered⟩
    rw [hadmissible.fault?_eq, ReversedRange.first?_eq_none_iff.mpr hordered]
    rfl

theorem make_eq_error_iff : make alphabet caseInsensitive operators = .error fault ↔
    fault? alphabet caseInsensitive = some fault := by
  unfold make
  split
  next h => simp [h]
  next h => simp [h]

theorem exists_make_iff : (∃ dialect, make alphabet caseInsensitive operators = .ok dialect) ↔
    fault? alphabet caseInsensitive = none := by
  unfold make
  split
  next h => simp [h]
  next h => simp [h]

/-- The reasons to refuse an alphabet. -/
theorem exists_error_iff : (∃ fault, make alphabet caseInsensitive operators = .error fault) ↔
    alphabet = [] ∨ alphabet.head? = some '^' ∨ ']' ∈ alphabet ∨ Text.backslash ∈ alphabet ∨
      ∃ low high, ClassItem.range low high ∈
        ClassItem.ofText (letterClass alphabet caseInsensitive) ∧ high < low := by
  have herror : (∃ fault, make alphabet caseInsensitive operators = .error fault) ↔
      ¬fault? alphabet caseInsensitive = none := by
    simp only [make_eq_error_iff, Option.ne_none_iff_exists']
  rw [herror, fault?_eq_none_iff]
  constructor
  · intro h
    by_contra hno
    simp only [not_or] at hno
    obtain ⟨hne, hcaret, hbracket, hbackslash, hrange⟩ := hno
    refine h ⟨⟨hne, hcaret, hbracket, hbackslash⟩, fun low high hmem => ?_⟩
    exact Char.not_lt.mp fun hlt => hrange ⟨low, high, hmem, hlt⟩
  · rintro hfault ⟨hadmissible, hordered⟩
    rcases hfault with h | h | h | h | ⟨low, high, hmem, hlt⟩
    · exact hadmissible.ne_nil h
    · exact hadmissible.caret h
    · exact hadmissible.bracket h
    · exact hadmissible.backslash h
    · exact absurd hlt (Char.not_lt.mpr (hordered low high hmem))

/-- An admissible alphabet is refused for the first range that runs backwards. -/
theorem Admissible.make_eq_error (h : Admissible alphabet) {before after : List ClassItem}
    {low high : Char}
    (hitems : ClassItem.ofText (letterClass alphabet caseInsensitive) =
      before ++ .range low high :: after)
    (hbefore : ClassItem.Ordered before) (hlt : high < low) :
    make alphabet caseInsensitive operators =
      .error (.reversedRange alphabet (letterClass alphabet caseInsensitive)
        ⟨(before.flatMap ClassItem.text).length, low, high⟩) := by
  rw [make_eq_error_iff, h.fault?_eq, ReversedRange.first?, hitems,
    ReversedRange.firstFrom?_append hbefore hlt, Nat.zero_add]
  rfl

/-- A dialect is made of what it is asked for. -/
theorem classText_of_make (h : make alphabet caseInsensitive operators = .ok dialect) :
    dialect.classText = letterClass alphabet caseInsensitive := by
  unfold make at h
  split at h
  next =>
    obtain rfl := Except.ok.inj h
    rfl
  next => simp at h

theorem letterItems_of_make (h : make alphabet caseInsensitive operators = .ok dialect) :
    dialect.letterItems = ClassItem.ofText (letterClass alphabet caseInsensitive) := by
  rw [letterItems, classText_of_make h]

theorem fault?_of_make (h : make alphabet caseInsensitive operators = .ok dialect) :
    fault? alphabet caseInsensitive = none := exists_make_iff.mp ⟨dialect, h⟩

/-- A class text that passed the check passes it once more when it is read as an alphabet. -/
theorem fault?_letterClass (h : fault? alphabet caseInsensitive = none) :
    fault? (letterClass alphabet caseInsensitive) false = none := by
  obtain ⟨hadmissible, hordered⟩ := fault?_eq_none_iff.mp h
  exact fault?_eq_none_iff.mpr ⟨hadmissible.classText caseInsensitive, hordered⟩

/-! ## Messages -/

/-- An index of the class text behind its opening bracket, with the row and the column of the index
if there are several rows. -/
def bracketPlace (classText : Text) (index : Nat) : Text :=
  let place := Position.ofIndex ('[' :: classText) index
  Text.ofNat index ++
    if Text.lineFeed ∈ classText then
      " (line ".toList ++ Text.ofInt place.row ++ ", column ".toList ++ Text.ofInt place.col ++ [')']
    else []

theorem rangePlace_eq (front back : Text) :
    rangePlace (front ++ back) front.length =
      bracketPlace (front ++ back) ('[' :: front).length := by
  have hpast : Position.start.past ('[' :: front) =
      Position.ofIndex ('[' :: (front ++ back)) ('[' :: front).length := by
    have hfront : '[' :: front <+: ('[' :: (front ++ back)).drop 0 := List.prefix_append _ back
    have h := Position.past_ofIndex hfront
    rwa [Nat.zero_add] at h
  rw [rangePlace, List.take_left, hpast, bracketPlace]
  by_cases hfeed : Text.lineFeed ∈ front ++ back
  · simp [hfeed]
  · simp [hfeed]

theorem message_reversedRange (alphabet classText : Text) (offset : Nat) (low high : Char) :
    (Fault.reversedRange alphabet classText ⟨offset, low, high⟩).message =
      "invalid identifier alphabet ".toList ++ alphabet.inApostrophes ++
        ": bad character range ".toList ++ [low, '-', high] ++ " at position ".toList ++
        rangePlace classText offset := rfl

/-! ## Letters -/

/-- The rule for identifiers finds the longest run of letters, if there is a letter. -/
theorem exists_run_scanAt (dialect : Dialect) (text : Text) (index : Nat) :
    ∃ run, run <+: text.drop index ∧ (∀ c ∈ run, dialect.isLetter c = true) ∧
      (∀ c ∈ (text.drop (index + run.length)).head?, dialect.isLetter c = false) ∧
      Rule.identifier.scanAt dialect.surface text index =
        .ok (if run = [] then none else some (.token (.identifier run) run)) := by
  refine ⟨(text.drop index).takeWhile dialect.isLetter, List.takeWhile_prefix _,
    fun c hc => List.mem_takeWhile_imp hc, fun c hc => ?_, ?_⟩
  · have hrest : (text.drop index).drop ((text.drop index).takeWhile dialect.isLetter).length =
        (text.drop index).dropWhile dialect.isLetter := by
      have hsplit := @List.takeWhile_append_dropWhile _ dialect.isLetter (text.drop index)
      exact (congrArg (List.drop _) hsplit).symm.trans List.drop_left
    rw [← List.drop_drop, hrest] at hc
    have := List.head?_dropWhile_not dialect.isLetter (text.drop index)
    simpa [Option.mem_def.mp hc] using this
  · show Except.ok (Rule.scanIdentifier dialect.isLetter (text.drop index)) = _
    rw [Rule.scanIdentifier]
    simp only [List.isEmpty_iff]

/-- **Judging an alphabet and reading identifiers go by the same items.** The class text divides
into items in one way, and their texts make it up. The alphabet is refused exactly if it is empty,
starts with a caret, holds a closing bracket or a backslash, or a range among the items runs
backwards. In the last case alone the message names the first such range and its index behind the
opening bracket. If the alphabet is accepted, the class text passes the same check when the lexer
reads it again, the letters are the characters of the items, and the longest run of letters at an
index is read as an identifier. -/
theorem make_letters (alphabet : Text) (caseInsensitive operators : Bool) :
    ∃ items : List ClassItem,
      (∀ items', ClassItem.Divides (letterClass alphabet caseInsensitive) items' ↔
        items' = items) ∧
      items.flatMap ClassItem.text = letterClass alphabet caseInsensitive ∧
      ((∃ fault, make alphabet caseInsensitive operators = .error fault) ↔
        alphabet = [] ∨ alphabet.head? = some '^' ∨ ']' ∈ alphabet ∨ Text.backslash ∈ alphabet ∨
          ∃ low high, ClassItem.range low high ∈ items ∧ high < low) ∧
      (Admissible alphabet → ∀ before low high after,
        items = before ++ ClassItem.range low high :: after →
        (∀ l h, ClassItem.range l h ∈ before → l ≤ h) → high < low →
        ∃ fault index, make alphabet caseInsensitive operators = .error fault ∧
          index = ('[' :: before.flatMap ClassItem.text).length ∧
          [low, '-', high] <+: ('[' :: letterClass alphabet caseInsensitive).drop index ∧
          fault.message = "invalid identifier alphabet ".toList ++ alphabet.inApostrophes ++
            ": bad character range ".toList ++ [low, '-', high] ++ " at position ".toList ++
            bracketPlace (letterClass alphabet caseInsensitive) index) ∧
      ∀ dialect, make alphabet caseInsensitive operators = .ok dialect →
        fault? dialect.classText false = none ∧
        (∀ c, dialect.isLetter c = true ↔ ClassItem.letter c ∈ items ∨
          ∃ low high, ClassItem.range low high ∈ items ∧ low ≤ c ∧ c ≤ high) ∧
        ∀ text index, ∃ run, run <+: text.drop index ∧
          (∀ c ∈ run, dialect.isLetter c = true) ∧
          (∀ c ∈ (text.drop (index + run.length)).head?, dialect.isLetter c = false) ∧
          Rule.identifier.scanAt dialect.surface text index =
            .ok (if run = [] then none else some (.token (.identifier run) run)) := by
  have htexts := (ClassItem.divides_ofText (letterClass alphabet caseInsensitive)).flatMap_text
  refine ⟨_, fun items' => ClassItem.divides_iff, htexts, exists_error_iff, ?_, ?_⟩
  · intro hadmissible before low high after hitems hbefore hlt
    have hclass : letterClass alphabet caseInsensitive = before.flatMap ClassItem.text ++
        ([low, '-', high] ++ after.flatMap ClassItem.text) := by
      rw [← htexts, hitems, List.flatMap_append, List.flatMap_cons]
      rfl
    refine ⟨_, _, hadmissible.make_eq_error hitems hbefore hlt, rfl, ?_, ?_⟩
    · rw [List.length_cons, List.drop_succ_cons, hclass, List.drop_left]
      exact List.prefix_append _ _
    · rw [message_reversedRange, hclass, rangePlace_eq]
  · intro dialect hmake
    refine ⟨?_, fun c => ?_, exists_run_scanAt dialect⟩
    · rw [classText_of_make hmake]
      exact fault?_letterClass (fault?_of_make hmake)
    · rw [isLetter, letterItems_of_make hmake, ClassItem.any_covers_iff]

end Dialect

end ScriptLexer
