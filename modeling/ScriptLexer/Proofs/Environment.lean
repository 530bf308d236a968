import ScriptLexer.Dialect.Environment
import ScriptLexer.Proofs.CaseInsensitive

set_option autoImplicit false

/-! # Settings one after another

The settings of an environment ask for a named dialect with another alphabet and another regard to
case (`Environment.Asks`). They are applied one after another, and a dialect has to come out each
time: also the one of the new alphabet and the old regard to case, which nobody asked for. So the
dialect asked for is made, unless the named dialect has no regard to case, the switch asks for it,
and the alphabet is accepted with it alone (`Dialect.ofEnvironment_of_asks`). -/

namespace ScriptLexer

/-! ## What an environment asks for -/

namespace Environment

/-- The setting is absent or empty. -/
def Unset (setting? : Option Text) : Prop := setting? = none ∨ setting? = some []

/-- The named dialect to start from. -/
inductive AsksBase (variant? : Option Text) : Dialect → Prop where
  | unset (h : Unset variant?) : AsksBase variant? Dialect.full
  | full {name : Text} (h : variant? = some name) (hname : Text.lowercase name = "full".toList) :
      AsksBase variant? Dialect.full
  | reduced {name : Text} (h : variant? = some name)
      (hname : Text.lowercase name = "reduced".toList) : AsksBase variant? Dialect.reduced

/-- The alphabet, that of the named dialect or another one. -/
inductive AsksAlphabet (alphabet? : Option Text) (base : Text) : Text → Prop where
  | unset (h : Unset alphabet?) : AsksAlphabet alphabet? base base
  | given {alphabet : Text} (h : alphabet? = some alphabet) (hne : alphabet ≠ []) :
      AsksAlphabet alphabet? base alphabet

/-- Whether case is left aside, as in the named dialect or as a word says. -/
inductive AsksCase (caseSwitch? : Option Text) (base : Bool) : Bool → Prop where
  | unset (h : Unset caseSwitch?) : AsksCase caseSwitch? base base
  | on {setting : Text} (h : caseSwitch? = some setting)
      (hword : Text.lowercase (Text.strip setting) ∈ Dialect.onWords) :
      AsksCase caseSwitch? base true
  | off {setting : Text} (h : caseSwitch? = some setting)
      (hword : Text.lowercase (Text.strip setting) ∈ Dialect.offWords) :
      AsksCase caseSwitch? base false

/-- The settings ask for the dialect `base` with an alphabet and a regard to case. -/
structure Asks (environment : Environment) (base : Dialect) (alphabet : Text)
    (caseInsensitive : Bool) : Prop where
  variant : AsksBase environment.variant? base
  letters : AsksAlphabet environment.alphabet? base.alphabet alphabet
  regard : AsksCase environment.caseSwitch? base.caseInsensitive caseInsensitive

end Environment

namespace Dialect

open Environment

variable {environment : Environment} {base dialect : Dialect} {alphabet : Text}
  {caseInsensitive operators : Bool} {setting? : Option Text}

/-! ## One setting -/

/-- The dialect after a setting: changed, if the setting is given. -/
def changedBy (setting? : Option Text) (dialect : Dialect)
    (change : Text → Except Fault Dialect) : Except Fault Dialect :=
  match given setting? with
  | none => .ok dialect
  | some setting => change setting

/-- The settings are applied one after another. -/
theorem ofEnvironment_eq_bind (environment : Environment) :
    ofEnvironment environment =
      (changedBy environment.variant? full named).bind fun base =>
        (changedBy environment.alphabet? base fun alphabet =>
          make alphabet base.caseInsensitive base.operators).bind fun lettered =>
            changedBy environment.caseSwitch? lettered fun setting =>
              (readSwitch setting).bind fun caseInsensitive =>
                make lettered.alphabet caseInsensitive lettered.operators := by
  unfold ofEnvironment changedBy
  cases given environment.variant? with
  | none =>
    cases given environment.alphabet? with
    | none => rfl
    | some alphabet => rfl
  | some name =>
    cases given environment.alphabet? with
    | none => rfl
    | some alphabet => rfl

variable {change : Text → Except Fault Dialect}

theorem changedBy_unset (h : Unset setting?) : changedBy setting? dialect change = .ok dialect := by
  rcases h with rfl | rfl
  · rfl
  · rfl

theorem changedBy_some {setting : Text} (hne : setting ≠ []) :
    changedBy (some setting) dialect change = change setting := by
  rw [changedBy, given, Option.filter_some_pos (by simpa using hne)]

theorem readSwitch_on {setting : Text} (h : Text.lowercase (Text.strip setting) ∈ onWords) :
    readSwitch setting = .ok true := by
  rw [readSwitch]
  exact if_pos (List.contains_iff_mem.mpr h)

theorem readSwitch_off {setting : Text} (h : Text.lowercase (Text.strip setting) ∈ offWords) :
    readSwitch setting = .ok false := by
  -- no word is in both lists
  have hon : onWords.contains (Text.lowercase (Text.strip setting)) = false := by
    generalize Text.lowercase (Text.strip setting) = word at h
    simp only [offWords, List.mem_cons, List.not_mem_nil, or_false] at h
    rcases h with rfl | rfl | rfl | rfl
    all_goals rfl
  rw [readSwitch, hon]
  exact if_pos (List.contains_iff_mem.mpr h)

/-! ## The parts of a dialect -/

theorem make_self (dialect : Dialect) :
    make dialect.alphabet dialect.caseInsensitive dialect.operators = .ok dialect := by
  unfold make
  split
  · rfl
  next h =>
    rw [dialect.accepted] at h
    simp at h

theorem parts_of_make (h : make alphabet caseInsensitive operators = .ok dialect) :
    dialect.alphabet = alphabet ∧ dialect.caseInsensitive = caseInsensitive ∧
      dialect.operators = operators := by
  unfold make at h
  split at h
  · obtain rfl := Except.ok.inj h
    exact ⟨rfl, rfl, rfl⟩
  · simp at h

/-! ## All settings -/

theorem changedBy_variant (h : AsksBase setting? base) :
    changedBy setting? full named = .ok base := by
  cases h with
  | unset hunset => exact changedBy_unset hunset
  | full hsome hname =>
    rw [hsome, changedBy_some (by rintro rfl; exact absurd hname (by decide)), named, hname]
    rfl
  | reduced hsome hname =>
    rw [hsome, changedBy_some (by rintro rfl; exact absurd hname (by decide)), named, hname]
    rfl

theorem changedBy_alphabet (h : AsksAlphabet setting? base.alphabet alphabet) :
    (changedBy setting? base fun alphabet => make alphabet base.caseInsensitive base.operators) =
      make alphabet base.caseInsensitive base.operators := by
  cases h with
  | unset hunset => rw [changedBy_unset hunset, make_self]
  | given hsome hne => rw [hsome, changedBy_some hne]

theorem changedBy_caseSwitch (h : AsksCase setting? dialect.caseInsensitive caseInsensitive) :
    (changedBy setting? dialect fun setting =>
      (readSwitch setting).bind fun caseInsensitive =>
        make dialect.alphabet caseInsensitive dialect.operators) =
      make dialect.alphabet caseInsensitive dialect.operators := by
  cases h with
  | unset hunset => rw [changedBy_unset hunset, make_self]
  | on hsome hword =>
    rw [hsome, changedBy_some (by rintro rfl; exact absurd hword (by decide)), readSwitch_on hword]
    rfl
  | off hsome hword =>
    rw [hsome, changedBy_some (by rintro rfl; exact absurd hword (by decide)), readSwitch_off hword]
    rfl

/-- The dialect asked for is made behind the one with the alphabet asked for and the regard to case
of the named dialect. -/
theorem ofEnvironment_eq (h : environment.Asks base alphabet caseInsensitive) :
    ofEnvironment environment =
      (make alphabet base.caseInsensitive base.operators).bind fun _ =>
        make alphabet caseInsensitive base.operators := by
  rw [ofEnvironment_eq_bind, changedBy_variant h.variant, Except.bind, changedBy_alphabet h.letters]
  cases hmake : make alphabet base.caseInsensitive base.operators with
  | error fault => rfl
  | ok lettered =>
    obtain ⟨halphabet, hcase, hoperators⟩ := parts_of_make hmake
    have hregard := h.regard
    rw [← hcase] at hregard
    rw [Except.bind, changedBy_caseSwitch hregard, halphabet, hoperators]
    rfl

theorem ofEnvironment_eq_ok_iff (h : environment.Asks base alphabet caseInsensitive) :
    ofEnvironment environment = .ok dialect ↔
      make alphabet caseInsensitive base.operators = .ok dialect ∧
        (base.caseInsensitive = true → caseInsensitive = false →
          ∃ passed, make alphabet true base.operators = .ok passed) := by
  rw [ofEnvironment_eq h]
  constructor
  · intro hok
    cases hpassed : make alphabet base.caseInsensitive base.operators with
    | error fault =>
      rw [hpassed] at hok
      simp [Except.bind] at hok
    | ok passed =>
      rw [hpassed] at hok
      refine ⟨hok, fun hbase _ => ⟨passed, ?_⟩⟩
      rwa [hbase] at hpassed
  · rintro ⟨hmake, hneeded⟩
    -- what is made on the way is accepted as well
    obtain ⟨passed, hpassed⟩ : ∃ passed,
        make alphabet base.caseInsensitive base.operators = .ok passed := by
      cases hbase : base.caseInsensitive with
      | false =>
        cases caseInsensitive with
        | false => exact ⟨dialect, hmake⟩
        | true => exact exists_make_caseSensitive hmake
      | true =>
        cases caseInsensitive with
        | false => exact hneeded hbase rfl
        | true => exact ⟨dialect, hmake⟩
    rw [hpassed]
    exact hmake

/-- **Settings that are applied one after another.** The dialect that the settings ask for is made
if it is accepted and, where the switch asks for regard to case and the named dialect has none, the
alphabet is accepted without regard to case too. In any case the answer, a fault included, is that
of the alphabet with the regard to case of the named dialect, or if this is accepted the one asked
for. -/
theorem ofEnvironment_of_asks (h : environment.Asks base alphabet caseInsensitive) :
    (∀ dialect, ofEnvironment environment = .ok dialect ↔
      make alphabet caseInsensitive base.operators = .ok dialect ∧
        (base.caseInsensitive = true → caseInsensitive = false →
          ∃ passed, make alphabet true base.operators = .ok passed)) ∧
    ofEnvironment environment =
      (make alphabet base.caseInsensitive base.operators).bind fun _ =>
        make alphabet caseInsensitive base.operators :=
  ⟨fun _ => ofEnvironment_eq_ok_iff h, ofEnvironment_eq h⟩

/-- The Cyrillic letters from the first one to the one with a diaeresis run backwards in upper
case. -/
theorem fault?_backwards : fault? "а-ё".toList true ≠ none := by decide

/-- A name, an alphabet and a switch: each of them is in order, and no dialect is made. -/
theorem ofEnvironment_of_asks_backwards :
    Asks ⟨some "Full".toList, some "а-ё".toList, some " Off ".toList⟩ full "а-ё".toList false ∧
      (∃ dialect, make "а-ё".toList false full.operators = .ok dialect) ∧
      ¬∃ dialect, ofEnvironment ⟨some "Full".toList, some "а-ё".toList, some " Off ".toList⟩ =
        .ok dialect := by
  have hasks : Asks ⟨some "Full".toList, some "а-ё".toList, some " Off ".toList⟩ full
      "а-ё".toList false :=
    ⟨AsksBase.full rfl (by decide), AsksAlphabet.given rfl (by decide),
      AsksCase.off rfl (by decide)⟩
  refine ⟨hasks, exists_make_iff.mpr (by decide), ?_⟩
  rintro ⟨dialect, hok⟩
  obtain ⟨-, hneeded⟩ := ((ofEnvironment_of_asks hasks).1 dialect).mp hok
  exact fault?_backwards (exists_make_iff.mp (hneeded rfl rfl))

/-- The dialect that the settings ask for may be accepted and still not be made. -/
theorem not_forall_ofEnvironment :
    ¬∀ (environment : Environment) (base : Dialect) (alphabet : Text) (caseInsensitive : Bool),
      environment.Asks base alphabet caseInsensitive → ∀ dialect,
        (ofEnvironment environment = .ok dialect ↔
          make alphabet caseInsensitive base.operators = .ok dialect) := by
  intro h
  have hasks : Asks ⟨none, some "а-ё".toList, some "0".toList⟩ full "а-ё".toList false :=
    ⟨AsksBase.unset (Or.inl rfl), AsksAlphabet.given rfl (by decide),
      AsksCase.off rfl (by decide)⟩
  obtain ⟨dialect, hmake⟩ := (@exists_make_iff "а-ё".toList false full.operators).mpr (by decide)
  -- the alphabet is tried without regard to case first
  obtain ⟨-, hneeded⟩ := (ofEnvironment_eq_ok_iff hasks).mp ((h _ _ _ _ hasks dialect).mpr hmake)
  exact fault?_backwards (exists_make_iff.mp (hneeded rfl rfl))

end Dialect

end ScriptLexer
