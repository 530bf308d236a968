import ScriptLexer.LetterClass

set_option autoImplicit false

/-! # Items of class texts

A class text divides into items in exactly one way (`ClassItem.divides_iff`), and it is well formed
if its items are ordered, that is if no range runs backwards. What is written behind a class text
can change no item but the last ones: those in front of its open end are settled
(`ClassItem.ofText_append`). So two class texts one behind the other have the items of both, unless
a hyphen at the seam makes a range of the characters around it. -/

namespace ScriptLexer

namespace ClassItem

variable {text front back : Text} {items : List ClassItem} {c : Char}

/-! ## The division of a class text -/

/-- The class text divides into the items, from left to right: a character, a hyphen and another
character are a range; a character and a hyphen at the end are two letters; any other character is
a letter. -/
inductive Divides : Text → List ClassItem → Prop where
  | nil : Divides [] []
  | range {low high : Char} {rest : Text} {items : List ClassItem} (h : Divides rest items) :
      Divides (low :: '-' :: high :: rest) (.range low high :: items)
  | final {c : Char} : Divides [c, '-'] [.letter c, .letter '-']
  | letter {c : Char} {rest : Text} {items : List ClassItem} (hrest : rest.head? ≠ some '-')
      (h : Divides rest items) : Divides (c :: rest) (.letter c :: items)

theorem ofText_range (low high : Char) (rest : Text) :
    ofText (low :: '-' :: high :: rest) = .range low high :: ofText rest := rfl

theorem ofText_letter (c : Char) {rest : Text} (hrest : rest.head? ≠ some '-') :
    ofText (c :: rest) = .letter c :: ofText rest := by
  cases rest with
  | nil => rfl
  | cons d rest =>
    have hd : d ≠ '-' := fun h => hrest (congrArg some h)
    simp [ofText, hd]

/-- Where a character is read as a letter, no hyphen follows it. -/
theorem head?_ne_hyphen (hfinal : text = ['-'] → False)
    (hrange : ∀ (high : Char) (rest : List Char), text = '-' :: high :: rest → False) :
    text.head? ≠ some '-' := by
  intro h
  obtain ⟨rest, rfl⟩ := List.head?_eq_some_iff.mp h
  cases rest with
  | nil => exact hfinal rfl
  | cons high rest => exact hrange high rest rfl

theorem divides_ofText (text : Text) : Divides text (ofText text) := by
  induction text using ofText.induct with
  | case1 => exact Divides.nil
  | case2 c => exact Divides.letter (by simp) Divides.nil
  | case3 c => exact Divides.final
  | case4 low high rest ih => exact Divides.range ih
  | case5 c rest _ hfinal hrange ih =>
    have hrest := head?_ne_hyphen hfinal hrange
    rw [ofText_letter c hrest]
    exact Divides.letter hrest ih

/-- **A class text divides into items in one way.** -/
theorem divides_iff : Divides text items ↔ items = ofText text := by
  constructor
  · intro h
    induction h with
    | nil => rfl
    | range _ ih => rw [ofText_range, ih]
    | final => rfl
    | letter hrest _ ih => rw [ofText_letter _ hrest, ih]
  · rintro rfl
    exact divides_ofText text

/-- The texts of the items make up the class text. -/
theorem Divides.flatMap_text (h : Divides text items) : items.flatMap ClassItem.text = text := by
  induction h with
  | nil => rfl
  | range _ ih => rw [List.flatMap_cons, ih]; rfl
  | final => rfl
  | letter _ _ ih => rw [List.flatMap_cons, ih]; rfl

/-- A character is covered by items if it is one of their letters or lies in one of their ranges. -/
theorem any_covers_iff : items.any (·.covers c) = true ↔
    .letter c ∈ items ∨ ∃ low high, .range low high ∈ items ∧ low ≤ c ∧ c ≤ high := by
  rw [List.any_eq_true]
  constructor
  · rintro ⟨item, hitem, hcovers⟩
    cases item with
    | letter own =>
      obtain rfl : own = c := by simpa [covers] using hcovers
      exact Or.inl hitem
    | range low high => exact Or.inr ⟨low, high, hitem, by simpa [covers] using hcovers⟩
  · rintro (hitem | ⟨low, high, hitem, hcovers⟩)
    · exact ⟨_, hitem, by simp [covers]⟩
    · exact ⟨_, hitem, by simpa [covers] using hcovers⟩

/-! ## Ordered items -/

/-- No range runs backwards. -/
def Ordered (items : List ClassItem) : Prop :=
  ∀ low high, ClassItem.range low high ∈ items → low ≤ high

theorem ordered_append {a b : List ClassItem} : Ordered (a ++ b) ↔ Ordered a ∧ Ordered b := by
  simp only [Ordered, List.mem_append]
  constructor
  · intro h
    exact ⟨fun low high hmem => h low high (Or.inl hmem),
      fun low high hmem => h low high (Or.inr hmem)⟩
  · rintro ⟨ha, hb⟩ low high (hmem | hmem)
    · exact ha low high hmem
    · exact hb low high hmem

theorem ordered_letter : Ordered (.letter c :: items) ↔ Ordered items := by
  simp [Ordered]

theorem ordered_range {low high : Char} :
    Ordered (.range low high :: items) ↔ low ≤ high ∧ Ordered items := by
  simp only [Ordered, List.mem_cons, range.injEq]
  constructor
  · intro h
    exact ⟨h low high (Or.inl ⟨rfl, rfl⟩), fun l u hmem => h l u (Or.inr hmem)⟩
  · rintro ⟨hle, h⟩ l u (⟨rfl, rfl⟩ | hmem)
    · exact hle
    · exact h l u hmem

/-- In ordered items, both ends of a class text are letters of the class. -/
theorem any_covers_head (h : Ordered (ofText (c :: text))) :
    (ofText (c :: text)).any (·.covers c) = true := by
  by_cases hrest : text.head? = some '-'
  · obtain ⟨rest, rfl⟩ := List.head?_eq_some_iff.mp hrest
    cases rest with
    | nil => simp [ofText, covers]
    | cons high rest =>
      rw [ofText_range, ordered_range] at h
      simp [ofText_range, covers, h.1]
  · simp [ofText_letter c hrest, covers]

theorem any_covers_getLast (h : Ordered (ofText text)) (hlast : text.getLast? = some c) :
    (ofText text).any (·.covers c) = true := by
  induction text using ofText.induct with
  | case1 => simp at hlast
  | case2 d =>
    obtain rfl : d = c := by simpa using hlast
    simp [ofText, covers]
  | case3 d =>
    obtain rfl : '-' = c := by simpa using hlast
    simp [ofText, covers]
  | case4 low high rest ih =>
    rw [ofText_range, ordered_range] at h
    rw [ofText_range, List.any_cons, Bool.or_eq_true]
    by_cases hne : rest = []
    · -- the range is the last item, and it is not empty
      subst hne
      obtain rfl : high = c := by simpa using hlast
      exact Or.inl (by simp [covers, h.1])
    · rw [List.getLast?_cons_of_ne_nil (by simp), List.getLast?_cons_of_ne_nil (by simp),
        List.getLast?_cons_of_ne_nil hne] at hlast
      exact Or.inr (ih h.2 hlast)
  | case5 d rest hne hfinal hrange ih =>
    rw [ofText_letter d (head?_ne_hyphen hfinal hrange), ordered_letter] at h
    rw [ofText_letter d (head?_ne_hyphen hfinal hrange), List.any_cons, Bool.or_eq_true]
    refine Or.inr (ih h ?_)
    rwa [List.getLast?_cons_of_ne_nil hne] at hlast

/-! ## What follows a class text -/

/-- The items of a class text that do not depend on what is written behind it. -/
def settled : Text → List ClassItem
  | [] => []
  | [_] => []
  | [_, '-'] => []
  | low :: '-' :: high :: rest => .range low high :: settled rest
  | c :: rest => .letter c :: settled rest

/-- The characters behind the settled items: a letter, perhaps with a hyphen, that could still be
the start of a range. -/
def openEnd : Text → Text
  | [] => []
  | [c] => [c]
  | [c, '-'] => [c, '-']
  | _ :: '-' :: _ :: rest => openEnd rest
  | _ :: rest => openEnd rest

theorem settled_letter (c : Char) {rest : Text} (hne : rest ≠ [])
    (hrest : rest.head? ≠ some '-') : settled (c :: rest) = .letter c :: settled rest := by
  cases rest with
  | nil => exact absurd rfl hne
  | cons d rest =>
    have hd : d ≠ '-' := fun h => hrest (congrArg some h)
    simp [settled, hd]

theorem openEnd_letter (c : Char) {rest : Text} (hne : rest ≠ [])
    (hrest : rest.head? ≠ some '-') : openEnd (c :: rest) = openEnd rest := by
  cases rest with
  | nil => exact absurd rfl hne
  | cons d rest =>
    have hd : d ≠ '-' := fun h => hrest (congrArg some h)
    simp [openEnd, hd]

/-- **What follows a class text is read together with its open end.** -/
theorem ofText_append (front back : Text) :
    ofText (front ++ back) = settled front ++ ofText (openEnd front ++ back) := by
  induction front using ofText.induct with
  | case1 => rfl
  | case2 c => rfl
  | case3 c => rfl
  | case4 low high rest ih =>
    show ClassItem.range low high :: ofText (rest ++ back) = _
    rw [ih]
    rfl
  | case5 c rest hne hfinal hrange ih =>
    have hrest := head?_ne_hyphen hfinal hrange
    have hmore : (rest ++ back).head? ≠ some '-' := by
      obtain ⟨d, more, rfl⟩ := List.exists_cons_of_ne_nil hne
      exact hrest
    rw [List.cons_append, ofText_letter c hmore, ih, settled_letter c hne hrest,
      openEnd_letter c hne hrest, List.cons_append]

theorem ofText_eq (text : Text) : ofText text = settled text ++ ofText (openEnd text) := by
  have h := ofText_append text []
  rwa [List.append_nil, List.append_nil] at h

/-- The open end is short: it has no range of its own. -/
theorem openEnd_cases (text : Text) :
    openEnd text = [] ∨ (∃ c, openEnd text = [c]) ∨ ∃ c, openEnd text = [c, '-'] := by
  induction text using ofText.induct with
  | case1 => exact Or.inl rfl
  | case2 c => exact Or.inr (Or.inl ⟨c, rfl⟩)
  | case3 c => exact Or.inr (Or.inr ⟨c, rfl⟩)
  | case4 low high rest ih => exact ih
  | case5 c rest hne hfinal hrange ih =>
    rwa [openEnd_letter c hne (head?_ne_hyphen hfinal hrange)]

theorem openEnd_suffix (text : Text) : openEnd text <:+ text := by
  induction text using ofText.induct with
  | case1 => exact List.suffix_rfl
  | case2 c => exact List.suffix_rfl
  | case3 c => exact List.suffix_rfl
  | case4 low high rest ih => exact ih.trans (List.suffix_append [low, '-', high] rest)
  | case5 c rest hne hfinal hrange ih =>
    rw [openEnd_letter c hne (head?_ne_hyphen hfinal hrange)]
    exact ih.trans (List.suffix_cons c rest)

theorem ordered_openEnd (text : Text) : Ordered (ofText (openEnd text)) := by
  rcases openEnd_cases text with h | ⟨c, h⟩ | ⟨c, h⟩
  all_goals
    rw [h]
    simp [Ordered, ofText]

/-- A beginning of ordered items is ordered, wherever the class text is cut. -/
theorem ordered_of_append (h : Ordered (ofText (front ++ back))) : Ordered (ofText front) := by
  rw [ofText_append, ordered_append] at h
  rw [ofText_eq, ordered_append]
  exact ⟨h.1, ordered_openEnd front⟩

/-- The letters of a class text stay letters when another one is written behind it, if that ends
with a hyphen in case the first one does. -/
theorem any_covers_append (hordered : Ordered (ofText (front ++ back)))
    (hhyphen : front.getLast? = some '-' → back.getLast? = some '-')
    (h : (ofText front).any (·.covers c) = true) :
    (ofText (front ++ back)).any (·.covers c) = true := by
  rw [ofText_append, ordered_append] at hordered
  rw [ofText_eq, List.any_append, Bool.or_eq_true] at h
  rw [ofText_append, List.any_append, Bool.or_eq_true]
  refine h.imp_right fun hopen => ?_
  obtain ⟨-, hordered⟩ := hordered
  have hsuffix := openEnd_suffix front
  rcases openEnd_cases front with hend | ⟨d, hend⟩ | ⟨d, hend⟩
  · simp [hend, ofText] at hopen
  · -- one letter is open: it stays a letter or becomes the lower end of a range
    rw [hend] at hopen hordered ⊢
    obtain rfl : d = c := by simpa [ofText, covers] using hopen
    exact any_covers_head hordered
  · -- a letter and a hyphen are open: what stands behind them has a hyphen at its end
    rw [hend] at hopen hordered hsuffix ⊢
    simp only [ofText, List.any_cons, List.any_nil, covers, Bool.or_false, Bool.or_eq_true,
      beq_iff_eq] at hopen
    rcases hopen with rfl | rfl
    · exact any_covers_head hordered
    · refine any_covers_getLast hordered ?_
      obtain ⟨more, rfl⟩ := hsuffix
      have hlast := hhyphen (by simp)
      rw [List.getLast?_append, hlast]
      rfl

/-! ## The seam of two class texts -/

/-- A range that reaches from one class text into the next, and what it leaves of that. -/
structure Seam where
  /-- Where the range starts. -/
  low : Char
  /-- Where it ends. -/
  high : Char
  /-- The rest of the second class text. -/
  rest : Text
deriving DecidableEq, Repr

/-- The range across the seam of two class texts, if there is one. -/
def seam? (front back : Text) : Option Seam :=
  match openEnd front, back with
  | [low, '-'], high :: rest => some ⟨low, high, rest⟩
  | [low], '-' :: high :: rest => some ⟨low, high, rest⟩
  | _, _ => none

/-- Without a range across the seam, the items are those of the two class texts. -/
theorem ofText_append_of_not_seam (h : seam? front back = none) :
    ofText (front ++ back) = ofText front ++ ofText back := by
  rw [ofText_append, ofText_eq front, List.append_assoc]
  congr 1
  unfold seam? at h
  rcases openEnd_cases front with hend | ⟨c, hend⟩ | ⟨c, hend⟩
  · rw [hend]
    rfl
  · rw [hend] at h ⊢
    by_cases hback : back.head? = some '-'
    · obtain ⟨rest, rfl⟩ := List.head?_eq_some_iff.mp hback
      cases rest with
      | nil => rfl
      | cons high rest => simp at h
    · exact ofText_letter c hback
  · rw [hend] at h ⊢
    cases back with
    | nil => rfl
    | cons high rest => simp at h

/-- The range across the seam takes the place of the open end. -/
theorem ofText_append_of_seam {seam : Seam} (h : seam? front back = some seam) :
    ofText (front ++ back) =
      settled front ++ .range seam.low seam.high :: ofText seam.rest := by
  rw [ofText_append]
  unfold seam? at h
  split at h
  next hend =>
    obtain rfl := Option.some.inj h
    rw [hend]
    rfl
  next hend =>
    obtain rfl := Option.some.inj h
    rw [hend]
    rfl
  · simp at h

/-- A range across the seam needs a hyphen on one side of it. -/
theorem hyphen_of_seam {seam : Seam} (h : seam? front back = some seam) :
    front.getLast? = some '-' ∨ back.head? = some '-' := by
  unfold seam? at h
  split at h
  next hend =>
    obtain ⟨more, hmore⟩ := openEnd_suffix front
    refine Or.inl ?_
    rw [← hmore, hend]
    simp
  · exact Or.inr rfl
  · simp at h

end ClassItem

/-! ## The first reversed range -/

namespace ReversedRange

open ClassItem

theorem firstFrom?_eq_none_iff {items : List ClassItem} (offset : Nat) :
    firstFrom? offset items = none ↔ Ordered items := by
  induction items generalizing offset with
  | nil => simp [firstFrom?, Ordered]
  | cons item items ih =>
    cases item with
    | letter c => rw [firstFrom?, ih, ordered_letter]
    | range low high =>
      rw [firstFrom?, ordered_range]
      split
      next hlt => simpa using fun hle => absurd hlt (Char.not_lt.mpr hle)
      next hle => rw [ih, and_iff_right (Char.not_lt.mp hle)]

theorem first?_eq_none_iff {classText : Text} :
    first? classText = none ↔ Ordered (ofText classText) := firstFrom?_eq_none_iff 0

/-- Behind ordered items, a range that runs backwards is the first one, at the index where the texts
of those items end. -/
theorem firstFrom?_append {before : List ClassItem} (hbefore : Ordered before) {low high : Char}
    (hlt : high < low) (after : List ClassItem) (offset : Nat) :
    firstFrom? offset (before ++ .range low high :: after) =
      some ⟨offset + (before.flatMap ClassItem.text).length, low, high⟩ := by
  induction before generalizing offset with
  | nil => simp [firstFrom?, hlt]
  | cons item before ih =>
    rw [List.cons_append, List.flatMap_cons, List.length_append, ← Nat.add_assoc]
    cases item with
    | letter c => exact ih (ordered_letter.mp hbefore) (offset + 1)
    | range l u =>
      obtain ⟨hle, hrest⟩ := ordered_range.mp hbefore
      rw [firstFrom?, if_neg (Char.not_lt.mpr hle)]
      exact ih hrest (offset + 3)

end ReversedRange

end ScriptLexer
