import Mathlib.Data.List.TakeWhile
import ScriptLexer.Command.Arguments

set_option autoImplicit false

/-! # How arguments are written

The grammar of the arguments of a command (`Arguments.Written`): options by their long names,
alone, with an equals sign and a value or with the value as the next word, options by their
letters, and operands. What is written by the grammar is read as it is meant (`Written.read`). -/

namespace ScriptLexer

/-! ## Names and letters of options -/

namespace OptionName

variable {known : List OptionName} {name : OptionName}

theorem long_injective {a b : OptionName} (h : a.long = b.long) : a = b := by
  revert h
  cases a <;> cases b <;> decide

theorem letter?_injective {a b : OptionName} {c : Char} (ha : a.letter? = some c)
    (hb : b.letter? = some c) : a = b := by
  rw [← hb] at ha
  revert ha
  cases a <;> cases b <;> simp_all [letter?]

theorem exists_long (name : OptionName) : ∃ c rest, name.long = '-' :: '-' :: c :: rest := by
  cases name <;> exact ⟨_, _, rfl⟩

theorem equals_not_mem_long (name : OptionName) : '=' ∉ name.long := by
  cases name <;> decide

theorem letter?_ne_hyphen (name : OptionName) : name.letter? ≠ some '-' := by
  cases name <;> decide

theorem find?_long (h : name ∈ known) : known.find? (·.long == name.long) = some name := by
  have hsome : (known.find? (·.long == name.long)).isSome = true :=
    List.find?_isSome.mpr ⟨name, h, by simp⟩
  obtain ⟨found, hfound⟩ := Option.isSome_iff_exists.mp hsome
  have hlong : found.long = name.long := by simpa using List.find?_some hfound
  rw [hfound, long_injective hlong]

theorem find?_letter {c : Char} (h : name ∈ known) (hletter : name.letter? = some c) :
    known.find? (·.letter? == some c) = some name := by
  have hsome : (known.find? (·.letter? == some c)).isSome = true :=
    List.find?_isSome.mpr ⟨name, h, by simp [hletter]⟩
  obtain ⟨found, hfound⟩ := Option.isSome_iff_exists.mp hsome
  have hfoundLetter : found.letter? = some c := by simpa using List.find?_some hfound
  rw [hfound, letter?_injective hfoundLetter hletter]

end OptionName

namespace Arguments

/-! ## The grammar -/

/-- The words are written for the arguments of a command that knows some options. If
`commandFollows`, the first operand ends the options. -/
inductive Written (known : List OptionName) (commandFollows : Bool) :
    List Text → Arguments → Prop where
  | nothing : Written known commandFollows [] ⟨[], []⟩
  | hyphens (operands : List Text) :
      Written known commandFollows (['-', '-'] :: operands) ⟨[], operands⟩
  | command {name : Text} (words : List Text) (hfollows : commandFollows = true)
      (hname : looksLikeOption name = false) :
      Written known commandFollows (name :: words) ⟨[], name :: words⟩
  | operand {operand : Text} {words : List Text} {arguments : Arguments}
      (hfollows : commandFollows = false) (hoperand : looksLikeOption operand = false)
      (h : Written known commandFollows words arguments) :
      Written known commandFollows (operand :: words) (arguments.withOperand operand)
  | flag {name : OptionName} {words : List Text} {arguments : Arguments} (hknown : name ∈ known)
      (hvalue : name.takesValue = false) (h : Written known commandFollows words arguments) :
      Written known commandFollows (name.long :: words) (arguments.withOptions [(name, none)])
  | letters {names : List OptionName} {letters : Text} {words : List Text} {arguments : Arguments}
      (hne : letters ≠ []) (hknown : ∀ name ∈ names, name ∈ known)
      (hletters : names.map (·.letter?) = letters.map some)
      (h : Written known commandFollows words arguments) :
      Written known commandFollows (('-' :: letters) :: words)
        (arguments.withOptions (names.map fun name => (name, none)))
  | attached {name : OptionName} {value : Text} {words : List Text} {arguments : Arguments}
      (hknown : name ∈ known) (hvalue : name.takesValue = true)
      (h : Written known commandFollows words arguments) :
      Written known commandFollows ((name.long ++ '=' :: value) :: words)
        (arguments.withOptions [(name, some value)])
  | separate {name : OptionName} {value : Text} {words : List Text} {arguments : Arguments}
      (hknown : name ∈ known) (hvalue : name.takesValue = true)
      (h : Written known commandFollows words arguments) :
      Written known commandFollows (name.long :: value :: words)
        (arguments.withOptions [(name, some value)])

/-! ## Reading what is written -/

section

variable (name : OptionName) (value : Text)

theorem long_append_ne_hyphens (more : Text) : name.long ++ more ≠ ['-', '-'] := by
  obtain ⟨c, rest, hlong⟩ := name.exists_long
  simp [hlong]

theorem long_ne_hyphens : name.long ≠ ['-', '-'] := by
  simpa using long_append_ne_hyphens name []

theorem looksLikeOption_long_append (more : Text) :
    looksLikeOption (name.long ++ more) = true := by
  obtain ⟨c, rest, hlong⟩ := name.exists_long
  rw [hlong]
  rfl

theorem looksLikeOption_long : looksLikeOption name.long = true := by
  simpa using looksLikeOption_long_append name []

theorem ne_equals_of_mem_long : ∀ c ∈ name.long, (c != '=') = true := by
  intro c hc
  rw [bne_iff_ne]
  rintro rfl
  exact name.equals_not_mem_long hc

theorem takeWhile_long : name.long.takeWhile (· != '=') = name.long :=
  List.takeWhile_eq_self_iff.mpr (ne_equals_of_mem_long name)

theorem takeWhile_long_equals :
    (name.long ++ '=' :: value).takeWhile (· != '=') = name.long := by
  rw [List.takeWhile_append_of_pos (ne_equals_of_mem_long name)]
  simp

theorem attachedValue?_long : attachedValue? name.long = none := by
  rw [attachedValue?, List.dropWhile_eq_nil_iff.mpr (ne_equals_of_mem_long name)]

theorem attachedValue?_long_equals :
    attachedValue? (name.long ++ '=' :: value) = some value := by
  rw [attachedValue?, List.dropWhile_append_of_pos (ne_equals_of_mem_long name)]
  rfl

end

variable {known : List OptionName} {commandFollows : Bool} {names : List OptionName}
  {name : OptionName} {letters value : Text} {words : List Text} {arguments : Arguments}

theorem head?_letters_ne_hyphen (hletters : names.map (·.letter?) = letters.map some) :
    letters.head? ≠ some '-' := by
  intro hhead
  obtain ⟨more, rfl⟩ := List.head?_eq_some_iff.mp hhead
  cases names with
  | nil => simp at hletters
  | cons first rest => exact first.letter?_ne_hyphen (List.cons.inj hletters).1

/-- Letters written together are no long name. -/
theorem find?_letters (hhead : letters.head? ≠ some '-') :
    known.find? (·.long == ('-' :: letters).takeWhile (· != '=')) = none := by
  rw [List.find?_eq_none]
  intro option _ hoption
  obtain ⟨c, rest, hlong⟩ := option.exists_long
  have hwritten : option.long = '-' :: letters.takeWhile (· != '=') := by
    simpa using hoption
  rw [hlong, List.cons.injEq] at hwritten
  -- the letter behind the hyphen would be another hyphen
  cases letters with
  | nil => simp at hwritten
  | cons letter letters =>
    rw [List.takeWhile_cons] at hwritten
    split at hwritten
    · exact hhead (congrArg some (List.cons.inj hwritten.2).1.symm)
    · simp at hwritten

theorem readLetters_eq_ok (hknown : ∀ name ∈ names, name ∈ known)
    (hletters : names.map (·.letter?) = letters.map some) :
    readLetters known letters = .ok (names.map fun name => (name, none)) := by
  induction names generalizing letters with
  | nil =>
    obtain rfl : letters = [] := by simpa using hletters.symm
    rfl
  | cons name names ih =>
    cases letters with
    | nil => simp at hletters
    | cons letter letters =>
      obtain ⟨hletter, hmore⟩ := List.cons.inj hletters
      have hrest := ih (fun option hoption => hknown option (by simp [hoption])) hmore
      rw [readLetters] at hrest ⊢
      rw [List.mapM_cons, OptionName.find?_letter (hknown name (by simp)) hletter, hrest]
      rfl

/-! ### The steps of reading -/

theorem read_flag (hknown : name ∈ known) (hvalue : name.takesValue = false) :
    read known commandFollows (name.long :: words) =
      (read known commandFollows words).map (withOptions [(name, none)]) := by
  rw [Arguments.read, if_neg (long_ne_hyphens name), if_pos (looksLikeOption_long name)]
  simp only [takeWhile_long, OptionName.find?_long hknown, hvalue, attachedValue?_long]
  rfl

theorem read_attached (hknown : name ∈ known) (hvalue : name.takesValue = true) :
    read known commandFollows ((name.long ++ '=' :: value) :: words) =
      (read known commandFollows words).map (withOptions [(name, some value)]) := by
  rw [Arguments.read, if_neg (long_append_ne_hyphens name _),
    if_pos (looksLikeOption_long_append name _)]
  simp only [takeWhile_long_equals, OptionName.find?_long hknown, hvalue,
    attachedValue?_long_equals]
  rfl

theorem read_separate (hknown : name ∈ known) (hvalue : name.takesValue = true) :
    read known commandFollows (name.long :: value :: words) =
      (read known commandFollows words).map (withOptions [(name, some value)]) := by
  rw [Arguments.read, if_neg (long_ne_hyphens name), if_pos (looksLikeOption_long name)]
  simp only [takeWhile_long, OptionName.find?_long hknown, hvalue, attachedValue?_long]
  rfl

theorem read_letters (hne : letters ≠ []) (hknown : ∀ name ∈ names, name ∈ known)
    (hletters : names.map (·.letter?) = letters.map some) :
    read known commandFollows (('-' :: letters) :: words) =
      (read known commandFollows words).map
        (withOptions (names.map fun name => (name, none))) := by
  have hhead := head?_letters_ne_hyphen hletters
  obtain ⟨letter, more, rfl⟩ := List.exists_cons_of_ne_nil hne
  have hhyphen : letter ≠ '-' := by simpa using hhead
  have hlong : isLong ('-' :: letter :: more) = false := by
    unfold isLong
    split
    next heq => exact absurd (List.cons.inj (List.cons.inj heq).2).1 hhyphen
    · rfl
  have hlooks : looksLikeOption ('-' :: letter :: more) = true := rfl
  have hdrop : ('-' :: letter :: more).drop 1 = letter :: more := rfl
  rw [Arguments.read, if_neg (by simp [hhyphen]), if_pos hlooks]
  simp only [find?_letters hhead, hlong, hdrop, readLetters_eq_ok hknown hletters]
  rfl

/-- What is written by the grammar is read as it is meant. -/
theorem Written.read (h : Written known commandFollows words arguments) :
    Arguments.read known commandFollows words = .ok arguments := by
  -- each rule of the grammar is one step of reading
  induction h with
  | nothing => rw [Arguments.read]
  | hyphens operands => rw [Arguments.read, if_pos rfl]
  | @command name words hfollows hname =>
    have hhyphens : name ≠ ['-', '-'] := by
      rintro rfl
      exact absurd hname (by decide)
    rw [Arguments.read, if_neg hhyphens, if_neg (by simp [hname]), if_pos hfollows]
  | @operand operand words arguments hfollows hoperand _ ih =>
    have hhyphens : operand ≠ ['-', '-'] := by
      rintro rfl
      exact absurd hoperand (by decide)
    rw [Arguments.read, if_neg hhyphens, if_neg (by simp [hoperand]), if_neg (by simp [hfollows]),
      ih]
    rfl
  | flag hknown hvalue _ ih => rw [read_flag hknown hvalue, ih]; rfl
  | letters hne hknown hletters _ ih => rw [read_letters hne hknown hletters, ih]; rfl
  | attached hknown hvalue _ ih => rw [read_attached hknown hvalue, ih]; rfl
  | separate hknown hvalue _ ih => rw [read_separate hknown hvalue, ih]; rfl

end Arguments

end ScriptLexer
