import ScriptLexer.Text.Uppercase

set_option autoImplicit false

/-! # Upper case and the marks of a class text

A hyphen, a closing bracket and a backslash mean something in a class text or are refused there.
None of them is in the upper case of another character (`Text.eq_of_mem_uppercaseChar`), so a text
in upper case holds them only where the text does: it starts with a hyphen only if the text does,
and it ends with one if the text does. A character of an upper case is its own upper case
(`Text.uppercaseChar_of_mem`): the tables have no character that is both changed and changed to. -/

namespace ScriptLexer

/-- What a table of runs gives is the image of a character that one of them holds. -/
theorem CaseRun.exists_of_lookup {runs : List CaseRun} {c d : Char}
    (h : CaseRun.lookup runs c = some d) :
    ∃ run ∈ runs, run.holds c.toNat = true ∧ d = Char.ofNat (run.apply c.toNat) := by
  obtain ⟨run, hrun, rfl⟩ := Option.map_eq_some_iff.mp h
  have hholds := List.find?_some hrun
  exact ⟨run, List.mem_of_find?_eq_some hrun, hholds, rfl⟩

/-- The image of a run is no longer than the run. -/
theorem CaseRun.apply_bounds {run : CaseRun} {code : Nat} (h : run.holds code = true) :
    run.image ≤ run.apply code ∧ run.apply code ≤ run.image + (run.last - run.first) := by
  simp only [holds, Bool.and_eq_true, decide_eq_true_eq] at h
  rw [apply]
  omega

namespace Text

variable {c mark : Char} {text : Text}

/-- The characters that mean something in a class text or are refused in an alphabet. -/
def classMarks : List Char := ['-', ']', backslash]

theorem toNat_of_mem_classMarks (h : mark ∈ classMarks) :
    mark.toNat = 45 ∨ mark.toNat = 93 ∨ mark.toNat = 92 := by
  simp only [classMarks, List.mem_cons, List.not_mem_nil, or_false] at h
  rcases h with rfl | rfl | rfl
  · exact Or.inl rfl
  · exact Or.inr (Or.inl rfl)
  · exact Or.inr (Or.inr rfl)

/-- A letter with a single upper-case letter does not become a mark: the images of all runs are
behind the hyphen, and either in front of the other marks or behind them. -/
theorem lookup_not_mem_classMarks {d : Char} (h : CaseRun.lookup uppercaseRuns c = some d) :
    d ∉ classMarks := by
  have hall : (uppercaseRuns.all fun run => decide (45 < run.image ∧
      (run.image + (run.last - run.first) < 92 ∨ 93 < run.image))) = true := by decide +kernel
  obtain ⟨run, hrun, hholds, rfl⟩ := CaseRun.exists_of_lookup h
  have himage := of_decide_eq_true (List.all_eq_true.mp hall run hrun)
  have hbounds := CaseRun.apply_bounds hholds
  intro hmem
  have hcode := toNat_of_mem_classMarks hmem
  by_cases hvalid : (run.apply c.toNat).isValidChar
  · rw [Char.ofNat, dif_pos hvalid] at hcode
    have : run.apply c.toNat = 45 ∨ run.apply c.toNat = 93 ∨ run.apply c.toNat = 92 := hcode
    omega
  · rw [Char.ofNat, dif_neg hvalid] at hcode
    exact absurd hcode (by decide)

theorem mem_uppercaseExpansions {expansion : Text}
    (h : uppercaseExpansions.lookup c = some expansion) :
    (c, expansion) ∈ uppercaseExpansions := by
  obtain ⟨front, back, hentries, -⟩ := List.lookup_eq_some_iff.mp h
  simp [hentries]

/-- An upper case of several letters is not empty and has no mark. -/
theorem expansion_not_mem_classMarks {expansion : Text}
    (h : uppercaseExpansions.lookup c = some expansion) :
    expansion ≠ [] ∧ ∀ mark ∈ classMarks, mark ∉ expansion := by
  have hall : (uppercaseExpansions.all fun entry =>
      !entry.2.isEmpty && entry.2.all fun c => !classMarks.contains c) = true := rfl
  have hentry := List.all_eq_true.mp hall _ (mem_uppercaseExpansions h)
  simp only [Bool.and_eq_true, Bool.not_eq_true', List.isEmpty_eq_false_iff, List.all_eq_true,
    List.contains_eq_mem, decide_eq_false_iff_not] at hentry
  exact ⟨hentry.1, fun mark hmark hin => hentry.2 mark hin hmark⟩

/-- **No mark is in the upper case of another character.** -/
theorem eq_of_mem_uppercaseChar (hmark : mark ∈ classMarks) (h : mark ∈ uppercaseChar c) :
    mark = c := by
  unfold uppercaseChar at h
  split at h
  next hlookup => exact absurd h ((expansion_not_mem_classMarks hlookup).2 mark hmark)
  next =>
    rw [List.mem_singleton] at h
    cases hrun : CaseRun.lookup uppercaseRuns c with
    | none => rwa [hrun] at h
    | some d =>
      rw [hrun, Option.getD_some] at h
      exact absurd (h ▸ hmark) (lookup_not_mem_classMarks hrun)

theorem mem_of_mem_uppercase (hmark : mark ∈ classMarks) (h : mark ∈ uppercase text) :
    mark ∈ text := by
  obtain ⟨c, hc, hmem⟩ := List.mem_flatMap.mp h
  rwa [eq_of_mem_uppercaseChar hmark hmem]

theorem uppercaseChar_hyphen : uppercaseChar '-' = ['-'] := by decide

theorem uppercaseChar_ne_nil (c : Char) : uppercaseChar c ≠ [] := by
  unfold uppercaseChar
  split
  next hlookup => exact (expansion_not_mem_classMarks hlookup).1
  next => simp

theorem head?_uppercase (h : text.head? ≠ some '-') : (uppercase text).head? ≠ some '-' := by
  cases text with
  | nil => exact h
  | cons c text =>
    intro hhead
    obtain ⟨d, more, hupper⟩ := List.exists_cons_of_ne_nil (uppercaseChar_ne_nil c)
    rw [uppercase, List.flatMap_cons, hupper] at hhead
    obtain rfl := Option.some.inj hhead
    have hc : '-' = c := eq_of_mem_uppercaseChar (by decide) (by simp [hupper])
    exact h (congrArg some hc.symm)

theorem getLast?_uppercase (h : text.getLast? = some '-') :
    (uppercase text).getLast? = some '-' := by
  obtain ⟨front, rfl⟩ := List.getLast?_eq_some_iff.mp h
  rw [uppercase, List.flatMap_append, List.flatMap_singleton, uppercaseChar_hyphen,
    List.getLast?_concat]

end Text

/-! ## Upper case twice -/

/-- A set of numbers as one number: its bits are the members. -/
def bitsOf (codes : List Nat) : Nat := codes.foldr (fun code bits => 1 <<< code ||| bits) 0

theorem testBit_bitsOf {codes : List Nat} {code : Nat} (h : code ∈ codes) :
    (bitsOf codes).testBit code = true := by
  induction codes with
  | nil => simp at h
  | cons first codes ih =>
    show (1 <<< first ||| bitsOf codes).testBit code = true
    rw [Nat.testBit_or, Bool.or_eq_true]
    rcases List.mem_cons.mp h with rfl | hmem
    · exact Or.inl (by simp [Nat.testBit_shiftLeft])
    · exact Or.inr (ih hmem)

/-- Sets without a common bit have no common member. -/
theorem not_mem_of_bitsOf {a b : List Nat} (h : bitsOf a &&& bitsOf b = 0) {code : Nat}
    (hcode : code ∈ a) : code ∉ b := by
  intro hmem
  have hboth : (bitsOf a &&& bitsOf b).testBit code = true := by
    rw [Nat.testBit_and, testBit_bitsOf hcode, testBit_bitsOf hmem]
    rfl
  rw [h, Nat.zero_testBit] at hboth
  exact absurd hboth (by decide)

namespace CaseRun

/-- As many code points as the run has, from another one on. -/
def codesFrom (run : CaseRun) (start : Nat) : List Nat :=
  List.range' start ((run.last - run.first) / run.stride + 1) run.stride

/-- A code point of the run, and what it becomes, are at the same place. -/
theorem mem_codesFrom {run : CaseRun} {code : Nat} (h : run.holds code = true) (start : Nat) :
    start + (code - run.first) ∈ run.codesFrom start := by
  simp only [holds, Bool.and_eq_true, decide_eq_true_eq, beq_iff_eq] at h
  obtain ⟨⟨hfirst, hlast⟩, hstride⟩ := h
  have hsteps : run.stride * ((code - run.first) / run.stride) = code - run.first := by
    have := Nat.div_add_mod (code - run.first) run.stride
    rwa [hstride, Nat.add_zero] at this
  have hle : (code - run.first) / run.stride ≤ (run.last - run.first) / run.stride :=
    Nat.div_le_div_right (by omega)
  rw [codesFrom, List.mem_range']
  exact ⟨_, Nat.lt_succ_of_le hle, by rw [hsteps]⟩

end CaseRun

namespace Text

variable {c d : Char}

/-- The code points whose upper case is not themselves. -/
def changedCodes : List Nat :=
  uppercaseRuns.flatMap (fun run => run.codesFrom run.first) ++
    uppercaseExpansions.map fun entry => entry.1.toNat

/-- The code points that upper cases are made of. -/
def reachedCodes : List Nat :=
  uppercaseRuns.flatMap (fun run => run.codesFrom run.image) ++
    uppercaseExpansions.flatMap fun entry => entry.2.map Char.toNat

theorem not_mem_changedCodes {code : Nat} (h : code ∈ reachedCodes) : code ∉ changedCodes := by
  have hbits : bitsOf reachedCodes &&& bitsOf changedCodes = 0 := by decide +kernel
  exact not_mem_of_bitsOf hbits h

/-- The tables leave every other character as it is. -/
theorem uppercaseChar_eq_self (h : c.toNat ∉ changedCodes) : uppercaseChar c = [c] := by
  rw [changedCodes, List.mem_append, not_or] at h
  have hexpansion : uppercaseExpansions.lookup c = none := by
    rw [Option.eq_none_iff_forall_ne_some]
    intro expansion hlookup
    exact h.2 (List.mem_map_of_mem (mem_uppercaseExpansions hlookup))
  have hrun : CaseRun.lookup uppercaseRuns c = none := by
    rw [Option.eq_none_iff_forall_ne_some]
    intro d hlookup
    obtain ⟨run, hmem, hholds, -⟩ := CaseRun.exists_of_lookup hlookup
    have hfirst : run.first ≤ c.toNat := by
      simp only [CaseRun.holds, Bool.and_eq_true, decide_eq_true_eq] at hholds
      exact hholds.1.1
    have hcode := CaseRun.mem_codesFrom hholds run.first
    rw [Nat.add_sub_cancel' hfirst] at hcode
    exact h.1 (List.mem_flatMap.mpr ⟨run, hmem, hcode⟩)
  rw [uppercaseChar, hexpansion, hrun]
  rfl

/-- **A character of an upper case is its own upper case.** -/
theorem uppercaseChar_of_mem (h : d ∈ uppercaseChar c) : uppercaseChar d = [d] := by
  cases hlookup : uppercaseExpansions.lookup c with
  | some expansion =>
    rw [uppercaseChar, hlookup] at h
    refine uppercaseChar_eq_self (not_mem_changedCodes (List.mem_append_right _ ?_))
    exact List.mem_flatMap.mpr ⟨_, mem_uppercaseExpansions hlookup, List.mem_map_of_mem h⟩
  | none =>
    cases hrun : CaseRun.lookup uppercaseRuns c with
    | none =>
      have hself : uppercaseChar c = [c] := by
        rw [uppercaseChar, hlookup, hrun]
        rfl
      rw [hself, List.mem_singleton] at h
      rw [h, hself]
    | some image =>
      rw [uppercaseChar, hlookup, hrun, Option.getD_some, List.mem_singleton] at h
      obtain ⟨run, hmem, hholds, rfl⟩ := CaseRun.exists_of_lookup hrun
      subst h
      by_cases hvalid : (run.apply c.toNat).isValidChar
      · have hcode : (Char.ofNat (run.apply c.toNat)).toNat = run.apply c.toNat := by
          rw [Char.ofNat, dif_pos hvalid]
          rfl
        refine uppercaseChar_eq_self (not_mem_changedCodes (List.mem_append_left _ ?_))
        rw [hcode]
        exact List.mem_flatMap.mpr ⟨run, hmem, CaseRun.mem_codesFrom hholds run.image⟩
      · rw [Char.ofNat, dif_neg hvalid]
        decide

end Text

end ScriptLexer
