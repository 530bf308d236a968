import ScriptLexer.Proofs.Literal.OnePass

set_option autoImplicit false

/-! # Rules at an index

A rule that is tried at an index of a text does not depend on what stands in front of the index. For
literals this is not plain if they are read in the whole text by indexes (`Literal.search?`): from
each delimiter the search looks back over the backslashes in front of it, and from a line feed at
the character in front of it. It never gets behind the end of the slice before, so it finds what the
rule finds in the text from the index on (`Literal.search?_eq`). What is found lies behind the index
and in the text, and more text in front only moves it (`Rule.findAt_local`). -/

namespace ScriptLexer

/-- What a rule finds at an index of a text: a token and the length of its lexeme, or a literal at
fault and the index to point at. -/
inductive Finding where
  /-- A token. -/
  | token (token : Token) (length : Nat)
  /-- A literal at fault. -/
  | faulty (fault : Literal.Fault) (offset : Nat)
deriving DecidableEq, Repr

namespace Finding

/-- The same finding behind some more characters. -/
def behind (count : Nat) : Finding → Finding
  | .token t length => .token t length
  | .faulty fault offset => .faulty fault (count + offset)

/-- The finding goes beyond the index and ends within the length. -/
def Within (index length : Nat) : Finding → Prop
  | .token _ count => 1 ≤ count ∧ index + count ≤ length
  | .faulty _ offset => index < offset ∧ offset ≤ length

end Finding

/-- What a scan says about the index at which it was made. -/
def Scan.finding (index : Nat) : Scan → Finding
  | .token t lexeme => .token t lexeme.length
  | .faulty fault passed => .faulty fault (index + passed.length)

/-- What a rule finds at an index. -/
def Rule.findAt (surface : Surface) (rule : Rule) (text : Text) (index : Nat) :
    Except Rule.PastEnd (Option Finding) :=
  (rule.scanAt surface text index).map (Option.map (Scan.finding index))

/-! ## Literals by indexes -/

namespace Literal

/-- The index of the first delimiter from an index on. -/
def delimiterFrom? (text : Text) (index : Nat) : Option Nat :=
  ((text.drop index).findIdx? isDelimiter).map (index + ·)

/-- How many backslashes stand side by side in front of an index, none of them before the floor. -/
def backslashesBefore (text : Text) (floor : Nat) : Nat → Nat
  | 0 => 0
  | index + 1 =>
    if floor ≤ index ∧ text[index]? = some Text.backslash then
      backslashesBefore text floor index + 1
    else 0

/-- The index at which a line break starts whose line feed stands at an index, if it starts behind
the floor. -/
def breakStart (text : Text) (floor index : Nat) : Nat :=
  if floor < index ∧ text[index - 1]? = some Text.carriageReturn then index - 1 else index

theorem lt_length_of_delimiterFrom? {text : Text} {floor found : Nat}
    (h : delimiterFrom? text floor = some found) : floor ≤ found ∧ found < text.length := by
  obtain ⟨count, hcount, rfl⟩ := Option.map_eq_some_iff.mp h
  obtain ⟨hlt, -⟩ := List.findIdx?_eq_some_iff_getElem.mp hcount
  rw [List.length_drop] at hlt
  omega

/-- Searches a text from the floor on for the end of the literal that starts at an index. What
stands before the floor has been read and has a value. -/
def searchFrom (text : Text) (start : Nat) (value : Text) (floor : Nat) : Finding :=
  match _h : delimiterFrom? text floor with
  | none => .faulty .unterminated text.length
  | some found =>
    let value := value ++ unescape ((text.drop floor).take (found + 1 - floor))
    if backslashesBefore text floor found % 2 = 1 then searchFrom text start value (found + 1)
    else if text[found]? = some Text.lineFeed then .faulty .broken (breakStart text floor found)
    else .token (.string value) (found + 1 - start)
termination_by text.length - floor
decreasing_by
  have := lt_length_of_delimiterFrom? _h
  omega

/-- The literal at an index of a text, if an apostrophe stands there. -/
def search? (text : Text) (index : Nat) : Option Finding :=
  if text[index]? = some Text.apostrophe then
    some (searchFrom text index [Text.apostrophe] (index + 1))
  else none

/-! ## What the search sees -/

variable {before s rest : Text} {d : Char}

theorem delimiterFrom?_free (hs : ∀ c ∈ s, isDelimiter c = false) :
    delimiterFrom? (before ++ s) before.length = none := by
  rw [delimiterFrom?, List.drop_left, List.findIdx?_eq_none_iff.mpr hs]
  rfl

theorem delimiterFrom?_delimiter (hs : ∀ c ∈ s, isDelimiter c = false)
    (hd : isDelimiter d = true) (rest : Text) :
    delimiterFrom? (before ++ (s ++ d :: rest)) before.length =
      some (before.length + s.length) := by
  rw [delimiterFrom?, List.drop_left, List.findIdx?_append, List.findIdx?_eq_none_iff.mpr hs]
  simp [List.findIdx?_cons, hd]

theorem getElem?_between (before s : Text) (d : Char) (rest : Text) :
    (before ++ (s ++ d :: rest))[before.length + s.length]? = some d := by
  rw [← List.append_assoc, ← List.length_append, List.getElem?_append_right (Nat.le_refl _),
    Nat.sub_self]
  rfl

/-- The backslashes are those at the end of the slice, whatever stands before the floor. -/
theorem backslashesBefore_eq (before s rest : Text) :
    backslashesBefore (before ++ (s ++ rest)) before.length (before.length + s.length) =
      (s.reverse.takeWhile (· == Text.backslash)).length := by
  -- the count goes backwards, so the slice grows at its end
  induction s using List.reverseRecOn generalizing rest with
  | nil =>
    rw [List.length_nil, Nat.add_zero]
    cases before with
    | nil => rfl
    | cons c before => exact if_neg fun h => Nat.not_succ_le_self _ h.1
  | append_singleton s c ih =>
    have hc := getElem?_between before s c rest
    have hmore := ih (c :: rest)
    rw [List.append_assoc, List.singleton_append, List.length_append, List.length_singleton,
      ← Nat.add_assoc, backslashesBefore, hc, hmore, List.reverse_append, List.reverse_singleton,
      List.singleton_append]
    by_cases hbackslash : c = Text.backslash
    · rw [if_pos ⟨Nat.le_add_right _ _, congrArg some hbackslash⟩,
        List.takeWhile_cons_of_pos (by simpa using hbackslash), List.length_cons]
    · rw [if_neg fun h => hbackslash (Option.some.inj h.2),
        List.takeWhile_cons_of_neg (by simpa using hbackslash), List.length_nil]

/-- A delimiter is escaped if the search counts an odd number of backslashes in front of it. -/
theorem backslashesBefore_odd_iff (before s rest : Text) :
    backslashesBefore (before ++ (s ++ rest)) before.length (before.length + s.length) % 2 = 1 ↔
      isEscaped s = true := by
  rw [backslashesBefore_eq, isEscaped, beq_iff_eq]

/-- The line break starts where the slice ends, or at the carriage return there. -/
theorem breakStart_eq (before s rest : Text) :
    breakStart (before ++ (s ++ rest)) before.length (before.length + s.length) =
      before.length + (beforeBreak s).length := by
  rcases List.eq_nil_or_concat s with rfl | ⟨front, c, rfl⟩
  · simp [breakStart, beforeBreak]
  · rw [List.concat_eq_append]
    have hc := getElem?_between before front c rest
    have hindex : before.length + (front ++ [c]).length - 1 = before.length + front.length := by
      rw [List.length_append, List.length_singleton]
      omega
    rw [breakStart, hindex, List.append_assoc, List.singleton_append, hc]
    by_cases hreturn : c = Text.carriageReturn
    · rw [if_pos ⟨by simp, congrArg some hreturn⟩, beforeBreak, hreturn, List.getLast?_concat,
        if_pos rfl, List.dropLast_concat]
    · rw [if_neg fun h => hreturn (Option.some.inj h.2), beforeBreak, List.getLast?_concat,
        if_neg fun h => hreturn (Option.some.inj h)]

/-! ## The search and the reading -/

/-- What a reading says about the literal that starts at an index, if it was begun behind some
characters that have a value. -/
def Reading.finding (start passed : Nat) (value : Text) : Reading → Finding
  | .closed slices =>
    .token (.string (value ++ slices.flatMap unescape)) (passed + slices.flatten.length - start)
  | .faulty fault characters => .faulty fault (passed + characters.length)

theorem Reading.finding_after (start passed : Nat) (value slice : Text) (reading : Reading) :
    (reading.after slice).finding start passed value =
      reading.finding start (passed + slice.length) (value ++ unescape slice) := by
  cases reading with
  | closed slices => simp [Reading.after, Reading.finding, Nat.add_assoc]
  | faulty fault characters => simp [Reading.after, Reading.finding, Nat.add_assoc]

/-- **The search finds what the reading finds.** It looks back over slices of the reading only. -/
theorem searchFrom_eq (before rest : Text) (start : Nat) (value : Text) :
    searchFrom (before ++ rest) start value before.length =
      (read rest).finding start before.length value := by
  rw [searchFrom]
  rcases free_or_delimiter rest with hfree | ⟨s, d, more, rfl, hs, hd⟩
  · rw [read_free hfree]
    split
    · rw [List.length_append]
      rfl
    next heq => rw [delimiterFrom?_free hfree] at heq; cases heq
  · have hslice : ((before ++ (s ++ d :: more)).drop before.length).take
        (before.length + s.length + 1 - before.length) = s ++ [d] := by
      have hcount : before.length + s.length + 1 - before.length = (s ++ [d]).length := by
        rw [List.length_append, List.length_singleton]
        omega
      rw [List.drop_left, hcount, List.append_cons s d more, List.take_left]
    rw [read_delimiter hs hd]
    split
    next heq => rw [delimiterFrom?_delimiter hs hd] at heq; cases heq
    next heq =>
      rw [delimiterFrom?_delimiter hs hd] at heq
      cases heq
      simp only [hslice, backslashesBefore_odd_iff, getElem?_between, breakStart_eq,
        Option.some.injEq]
      by_cases hescaped : isEscaped s = true
      · -- the delimiter is escaped: both go on behind it
        have hnext := searchFrom_eq (before ++ (s ++ [d])) more start (value ++ unescape (s ++ [d]))
        rw [List.append_assoc, List.append_assoc, List.singleton_append] at hnext
        rw [if_pos hescaped, if_pos hescaped, Reading.finding_after]
        simpa only [List.length_append, List.length_singleton, Nat.add_assoc] using hnext
      · rw [if_neg hescaped, if_neg hescaped]
        rcases isDelimiter_iff.mp hd with rfl | rfl
        · rw [if_neg (by decide), if_pos rfl]
          simp [Reading.finding, Nat.add_assoc]
        · rw [if_pos rfl, if_neg (by decide)]
          rfl
termination_by rest.length
decreasing_by simp [*]; omega

/-- The literal at an index is the one at the front of the text from the index on. -/
theorem search?_eq {text : Text} {index : Nat} (hindex : index < text.length) :
    search? text index = (Rule.scanString (text.drop index)).map (Scan.finding index) := by
  have hdrop : text.drop index = text[index] :: text.drop (index + 1) :=
    List.drop_eq_getElem_cons hindex
  have hsome : text[index]? = some text[index] := List.getElem?_eq_getElem hindex
  rw [search?, hsome, hdrop]
  generalize text[index] = c at hdrop
  by_cases hc : c = Text.apostrophe
  · subst hc
    have hlength : (text.take (index + 1)).length = index + 1 := List.length_take_of_le hindex
    have hread := searchFrom_eq (text.take (index + 1)) (text.drop (index + 1)) index
      [Text.apostrophe]
    rw [List.take_append_drop, hlength] at hread
    rw [if_pos rfl, Rule.scanString_apostrophe, hread]
    cases read (text.drop (index + 1)) with
    | closed slices =>
      have hlength : index + 1 + slices.flatten.length - index = (lexeme slices).length := by
        rw [lexeme, List.length_cons]
        omega
      simp only [Reading.finding, Option.map_some, Scan.finding, hlength]
      rfl
    | faulty fault passed =>
      simp only [Reading.finding, Option.map_some, Scan.finding, List.length_cons]
      rw [Nat.add_assoc, Nat.add_comm 1]
  · have hnone : Rule.scanString (c :: text.drop (index + 1)) = none := by
      cases hscan : Rule.scanString (c :: text.drop (index + 1)) with
      | none => rfl
      | some found =>
        obtain ⟨rest, hrest⟩ := Rule.exists_apostrophe_of_scanString hscan
        exact absurd (List.cons.inj hrest).1 hc
    rw [if_neg fun h => hc (Option.some.inj h), hnone]
    rfl

end Literal

/-! ## Every rule at an index -/

namespace Rule

variable {surface : Surface} {rule : Rule} {text : Text} {index : Nat}

/-- What a rule finds at an index of a text is what it finds in the text from there on. -/
theorem findAt_eq (hindex : index < text.length) :
    rule.findAt surface text index =
      .ok ((rule.scan surface (text.drop index)).map (Scan.finding index)) := by
  rw [findAt, scanAt_of_lt hindex]
  rfl

/-- The lexeme that a rule finds stands at the front of the text. -/
theorem lexeme_prefix_of_scan {token : Token} {lexeme : Text}
    (h : rule.scan surface text = some (.token token lexeme)) : lexeme <+: text := by
  -- what a rule finds does not depend on whether there are operators
  have hsame : rule.scan ⟨surface.isLetter, true⟩ text = some (.token token lexeme) := by
    cases rule <;> exact h
  have hoffered : rule.isOffered ⟨surface.isLetter, true⟩ = true := by
    cases rule <;> rfl
  exact (longest_of_scan hoffered hsame).front

/-- What a rule passes before it points at a fault stands at the front of the text. -/
theorem passed_prefix_of_scan {fault : Literal.Fault} {passed : Text}
    (h : rule.scan surface text = some (.faulty fault passed)) : passed <+: text := by
  obtain ⟨-, rest, read, rfl, hread, rfl⟩ := scan_eq_faulty_iff.mp h
  refine List.cons_prefix_cons.mpr ⟨rfl, ?_⟩
  have hreads := Literal.reads_read rest
  rw [hread] at hreads
  cases hreads with
  | @broken body hbody after =>
    have hbefore : Literal.beforeBreak body <+: body := by
      rw [Literal.beforeBreak]
      split
      · exact List.dropLast_prefix body
      · exact List.prefix_rfl
    exact hbefore.trans (List.prefix_append _ _)
  | unterminated _ => exact List.prefix_rfl

/-- A finding goes beyond its index and stays in the text. -/
theorem within_of_scan {found : Scan} (hindex : index < text.length)
    (h : rule.scan surface (text.drop index) = some found) :
    (found.finding index).Within index text.length := by
  have hvoid := scan_not_isVoid h
  cases found with
  | token token lexeme =>
    have hpos : 0 < lexeme.length := by
      simpa [Scan.isVoid, List.length_pos_iff] using hvoid
    have hle := (lexeme_prefix_of_scan h).length_le
    rw [List.length_drop] at hle
    exact ⟨hpos, by omega⟩
  | faulty fault passed =>
    have hpos : 0 < passed.length := by
      simpa [Scan.isVoid, List.length_pos_iff] using hvoid
    have hle := (passed_prefix_of_scan h).length_le
    rw [List.length_drop] at hle
    exact ⟨by show index < index + passed.length; omega,
      by show index + passed.length ≤ text.length; omega⟩

theorem finding_add (count index : Nat) (found : Scan) :
    found.finding (count + index) = (found.finding index).behind count := by
  cases found with
  | token token lexeme => rfl
  | faulty fault passed => exact congrArg (Finding.faulty fault) (Nat.add_assoc _ _ _)

/-- **Rules never look behind their start.** With more text in front, a rule finds the same at the
index that has moved: nothing, the same token of the same length, or the same fault, pointed out as
much further on. A token has at least one character and ends in the text, and a fault is pointed out
behind the index and not beyond the end. All this holds of literals too if they are searched by
indexes in the whole text. -/
theorem findAt_local (surface : Surface) (rule : Rule) (front : Text)
    (hindex : index < text.length) :
    ∃ found? : Option Finding,
      rule.findAt surface text index = .ok found? ∧
      rule.findAt surface (front ++ text) (front.length + index) =
        .ok (found?.map (·.behind front.length)) ∧
      (∀ found, found? = some found → found.Within index text.length) ∧
      (rule = .string → Literal.search? text index = found? ∧
        Literal.search? (front ++ text) (front.length + index) =
          found?.map (·.behind front.length)) := by
  have hmoved : front.length + index < (front ++ text).length := by
    rw [List.length_append]
    omega
  have hdrop : (front ++ text).drop (front.length + index) = text.drop index :=
    List.drop_length_add_append index
  have hbehind : (rule.scan surface (text.drop index)).map (Scan.finding (front.length + index)) =
      ((rule.scan surface (text.drop index)).map (Scan.finding index)).map
        (·.behind front.length) := by
    rw [Option.map_map]
    exact congrArg (Option.map · _) (funext (finding_add front.length index))
  refine ⟨_, findAt_eq hindex, ?_, ?_, ?_⟩
  · rw [findAt_eq hmoved, hdrop, hbehind]
  · intro found hfound
    obtain ⟨scan, hscan, rfl⟩ := Option.map_eq_some_iff.mp hfound
    exact within_of_scan hindex hscan
  · rintro rfl
    refine ⟨Literal.search?_eq hindex, ?_⟩
    rw [Literal.search?_eq hmoved, hdrop]
    exact hbehind

/-- A literal that is broken behind an escaped apostrophe, alone and behind a letter and a
backslash. -/
theorem findAt_local_broken :
    0 < "'a\\'b\r\n".toList.length ∧
      Rule.string.findAt Dialect.full.surface "'a\\'b\r\n".toList 0 =
        .ok (some (.faulty .broken 5)) ∧
      Rule.string.findAt Dialect.full.surface "x\\'a\\'b\r\n".toList 2 =
        .ok (some (.faulty .broken 7)) ∧
      Literal.search? "x\\'a\\'b\r\n".toList 2 = some (.faulty .broken 7) := by
  have hindex : 0 < "'a\\'b\r\n".toList.length := by decide
  have hfound : Rule.string.findAt Dialect.full.surface "'a\\'b\r\n".toList 0 =
      .ok (some (.faulty .broken 5)) := by decide +kernel
  obtain ⟨found?, hfind, hmoved, -, hsearch⟩ :=
    findAt_local Dialect.full.surface .string ['x', '\\'] hindex
  obtain rfl := Except.ok.inj (hfind.symm.trans hfound)
  exact ⟨hindex, hfound, hmoved, (hsearch rfl).2⟩

end Rule

end ScriptLexer
