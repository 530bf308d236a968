import ScriptLexer.Lexing
import ScriptLexer.Proofs.Munch

set_option autoImplicit false

/-! # Literals in one pass

The reading of a literal jumps from delimiter to delimiter, counts the backslashes in front of each,
and resolves the escape sequences slice by slice. The file compares it with a machine that reads one
character after the other and has two modes: a backslash is pending, or none is (`Machine`). Over
the body of a literal, the machine emits what the body stands for and is back in the normal mode at
its end (`Machine.run_body`). So both come to the same verdict on every text
(`Rule.scanAt_string_onePass`). -/

namespace ScriptLexer

namespace Literal

/-! ## The machine -/

/-- Whether a backslash waits for the character behind it. -/
inductive Mode where
  /-- No backslash waits. -/
  | normal
  /-- A backslash has been read and not yet been emitted. -/
  | pending
deriving DecidableEq, Repr

/-- What the machine finds out about a literal. -/
inductive Verdict where
  /-- What the literal stands for, and the index behind its closing apostrophe. -/
  | closed (value : Text) (stop : Nat)
  /-- What is wrong with the literal, and the index to point at. -/
  | faulty (fault : Fault) (offset : Nat)
deriving DecidableEq, Repr

/-- The machine inside a literal. -/
structure Machine where
  /-- Whether a backslash waits. -/
  mode : Mode
  /-- What the characters up to here stand for. -/
  emitted : Text
  /-- The character in front of the next one. -/
  previous : Char
  /-- The index of the next character. -/
  index : Nat
deriving DecidableEq, Repr

namespace Machine

/-- The machine behind the apostrophe at an index. -/
def start (index : Nat) : Machine := ⟨.normal, [Text.apostrophe], Text.apostrophe, index + 1⟩

/-- The machine behind one more character, for which something is emitted. -/
def emit (machine : Machine) (c : Char) (emitted : Text) : Machine :=
  ⟨.normal, machine.emitted ++ emitted, c, machine.index + 1⟩

/-- The machine behind a backslash that waits. -/
def hold (machine : Machine) : Machine :=
  ⟨.pending, machine.emitted, Text.backslash, machine.index + 1⟩

/-- The index at which a line break starts whose line feed is the next character. -/
def breakIndex (machine : Machine) : Nat :=
  if machine.previous = Text.carriageReturn then machine.index - 1 else machine.index

/-- The verdict of the machine on the characters from the next one on. -/
def run (machine : Machine) : Text → Verdict
  | [] => .faulty .unterminated machine.index
  | c :: rest =>
    match machine.mode with
    | .normal =>
      if c = Text.backslash then machine.hold.run rest
      else if c = Text.apostrophe then .closed (machine.emitted ++ [c]) (machine.index + 1)
      else if c = Text.lineFeed then .faulty .broken machine.breakIndex
      else (machine.emit c [c]).run rest
    | .pending =>
      if c = Text.backslash ∨ c = Text.apostrophe then (machine.emit c [c]).run rest
      else (machine.emit c [Text.backslash, c]).run rest

end Machine

/-- The verdict on the literal whose apostrophe stands at an index of a text. -/
def onePass (text : Text) (index : Nat) : Verdict :=
  (Machine.start index).run (text.drop (index + 1))

/-! ## What the machine does -/

theorem isProtected_iff {c : Char} :
    isProtected c = true ↔ c = Text.backslash ∨ c = Text.apostrophe := by
  simp [isProtected]

namespace Machine

variable {machine : Machine} {c : Char} {body rest : Text}

/-- The machine behind a whole body. -/
def after (machine : Machine) (body : Text) : Machine :=
  ⟨machine.mode, machine.emitted ++ unescape body, body.getLast?.getD machine.previous,
    machine.index + body.length⟩

theorem run_plain (hmode : machine.mode = .normal) (hc : isPlain c = true) :
    machine.run (c :: rest) = (machine.emit c [c]).run rest := by
  obtain ⟨hdelimiter, hbackslash⟩ := isPlain_iff.mp hc
  rw [← Bool.not_eq_true, isDelimiter_iff, not_or] at hdelimiter
  obtain ⟨hquote, hfeed⟩ := hdelimiter
  rw [run, hmode]
  simp only [if_neg hbackslash, if_neg hquote, if_neg hfeed]

/-- A backslash and the character behind it. -/
theorem run_escape (hmode : machine.mode = .normal) :
    machine.run (Text.backslash :: c :: rest) =
      (machine.hold.emit c (if isProtected c then [c] else [Text.backslash, c])).run rest := by
  rw [run, hmode]
  simp only [if_pos]
  rw [run]
  show (if c = Text.backslash ∨ c = Text.apostrophe then _ else _) = _
  simp only [← isProtected_iff]
  split <;> rfl

theorem run_backslash (hmode : machine.mode = .normal) :
    machine.run [Text.backslash] = .faulty .unterminated (machine.index + 1) := by
  rw [run, hmode]
  rfl

theorem run_apostrophe (hmode : machine.mode = .normal) :
    machine.run (Text.apostrophe :: rest) =
      .closed (machine.emitted ++ [Text.apostrophe]) (machine.index + 1) := by
  rw [run, hmode]
  rfl

theorem run_lineFeed (hmode : machine.mode = .normal) :
    machine.run (Text.lineFeed :: rest) = .faulty .broken machine.breakIndex := by
  rw [run, hmode]
  rfl

theorem after_cons (hc : c ≠ Text.backslash) (hmode : machine.mode = .normal) :
    (machine.emit c [c]).after body = machine.after (c :: body) := by
  simp only [after, emit, hmode, unescape_cons hc, List.append_assoc, List.singleton_append,
    List.length_cons, mk.injEq, true_and]
  exact ⟨by cases body <;> simp [List.getLast?_cons], by omega⟩

theorem after_escape (hmode : machine.mode = .normal) :
    (machine.hold.emit c (if isProtected c then [c] else [Text.backslash, c])).after body =
      machine.after (Text.backslash :: c :: body) := by
  simp only [after, emit, hold, hmode, unescape_escape, List.append_assoc, List.length_cons,
    mk.injEq, true_and]
  exact ⟨by split <;> rfl, by cases body <;> simp [List.getLast?_cons], by omega⟩

/-- **Over a body, the machine emits what the body stands for.** It stops nowhere in the body and
is in the normal mode behind it. -/
theorem run_body (hbody : Body body) (hmode : machine.mode = .normal) :
    machine.run (body ++ rest) = (machine.after body).run rest := by
  induction hbody generalizing machine with
  | nil =>
    have hsame : machine.after [] = machine := by simp [after, unescape]
    rw [hsame]
    rfl
  | plain hc _ ih =>
    rw [List.cons_append, run_plain hmode hc, ih rfl, after_cons (isPlain_iff.mp hc).2 hmode]
  | escape c _ ih =>
    rw [List.cons_append, List.cons_append, run_escape hmode, ih rfl, after_escape hmode]

/-- If nothing ends the literal, the machine comes to the end of the text. -/
theorem run_unclosed (hrest : Unclosed rest) (hmode : machine.mode = .normal) :
    machine.run rest = .faulty .unterminated (machine.index + rest.length) := by
  obtain ⟨body, hbody, rfl | rfl⟩ := hrest
  · have hend := @run_body machine rest [] hbody hmode
    rw [List.append_nil] at hend
    exact hend
  · have hafter : (machine.after body).mode = .normal := hmode
    rw [run_body hbody hmode, run_backslash hafter, List.length_append, List.length_singleton,
      ← Nat.add_assoc]
    rfl

/-- Behind a body, a line break is pointed out at the same place as by the reading. -/
theorem breakIndex_after (hmachine : machine.previous ≠ Text.carriageReturn) :
    (machine.after body).breakIndex = machine.index + (beforeBreak body).length := by
  rcases List.eq_nil_or_concat body with rfl | ⟨front, c, rfl⟩
  · simp [breakIndex, after, beforeBreak, hmachine]
  · by_cases hc : c = Text.carriageReturn
    · simp [breakIndex, after, beforeBreak, hc]
    · simp [breakIndex, after, beforeBreak, hc]

end Machine

end Literal

/-! ## The machine and the rule for literals -/

/-- What a scan at an index says about a literal. -/
def Scan.verdict? (index : Nat) : Scan → Option Literal.Verdict
  | .token (.string value) lexeme => some (.closed value (index + lexeme.length))
  | .token _ _ => none
  | .faulty fault passed => some (.faulty fault (index + passed.length))

namespace Rule

variable {surface : Surface} {token : Token} {text lexeme : Text} {index : Nat}

/-- A rule at an index looks at the text from there on. -/
theorem scanAt_of_lt {rule : Rule} (hindex : index < text.length) :
    rule.scanAt surface text index = .ok (rule.scan surface (text.drop index)) :=
  if_neg (by simp [hindex])

/-- At the end of a text, the rule for literals finds no token. -/
theorem lt_length_of_scanAt_string
    (h : Rule.string.scanAt surface text index = .ok (some (.token token lexeme))) :
    index < text.length := by
  by_contra hend
  rw [scanAt, if_pos (by simpa [needsCharacter] using hend)] at h
  cases h

/-- The rule for literals finds a token exactly if a literal stands at the index. -/
theorem scanAt_string_eq_token_iff :
    Rule.string.scanAt surface text index = .ok (some (.token token lexeme)) ↔
      Lexeme surface .string token lexeme ∧ lexeme <+: text.drop index := by
  constructor
  · intro h
    rw [scanAt_of_lt (lt_length_of_scanAt_string h)] at h
    have hlongest : Rule.string.Longest surface _ token lexeme :=
      longest_of_scanString (Except.ok.inj h)
    exact ⟨hlongest.written, hlongest.front⟩
  · rintro ⟨hwritten, hfront⟩
    have hindex : index < text.length := by
      have hpos := List.length_pos_iff.mpr hwritten.ne_nil
      have hle := hfront.length_le
      rw [List.length_drop] at hle
      omega
    obtain ⟨value, lexeme', hscan⟩ := scanString_of_prefix hwritten hfront
    -- a literal never goes on behind its closing apostrophe, so it is the one that is found
    obtain ⟨rest, hrest⟩ := hfront
    have hlongest : Rule.string.Longest surface (lexeme ++ rest) token lexeme :=
      hwritten.longest fun _ _ => id
    rw [hrest] at hlongest
    obtain ⟨rfl, rfl⟩ := hlongest.unique (longest_of_scanString hscan)
    rw [scanAt_of_lt hindex]
    exact congrArg Except.ok hscan

/-- The rule finds what the machine finds, for each way in which a reading can end. -/
theorem exists_scanString_verdict? (rest : Text) (index : Nat) :
    ∃ scan, scanString (Text.apostrophe :: rest) = some scan ∧
      scan.verdict? index = some ((Literal.Machine.start index).run rest) := by
  have hstart : (Literal.Machine.start index).previous ≠ Text.carriageReturn := by
    show Text.apostrophe ≠ Text.carriageReturn
    decide
  rw [scanString_apostrophe]
  have hreads := Literal.reads_read rest
  generalize Literal.read rest = reading at hreads
  cases hreads with
  | @closed body slices hbody hslices hvalue after =>
    refine ⟨_, rfl, ?_⟩
    rw [Literal.Machine.run_body hbody rfl, Literal.Machine.run_apostrophe rfl]
    refine congrArg some (congrArg₂ Literal.Verdict.closed ?_ ?_)
    · rw [Literal.value, hvalue]
      rfl
    · show index + (Literal.lexeme slices).length = index + 1 + body.length + 1
      rw [Literal.lexeme, hslices, List.length_cons, List.length_append, List.length_singleton]
      omega
  | @broken body hbody after =>
    refine ⟨_, rfl, ?_⟩
    rw [Literal.Machine.run_body hbody rfl, Literal.Machine.run_lineFeed rfl,
      Literal.Machine.breakIndex_after hstart]
    refine congrArg some (congrArg (Literal.Verdict.faulty .broken) ?_)
    show index + (Text.apostrophe :: Literal.beforeBreak body).length =
      index + 1 + (Literal.beforeBreak body).length
    rw [List.length_cons]
    omega
  | unterminated hrest =>
    refine ⟨_, rfl, ?_⟩
    rw [Literal.Machine.run_unclosed hrest rfl]
    refine congrArg some (congrArg (Literal.Verdict.faulty .unterminated) ?_)
    show index + (Text.apostrophe :: rest).length = index + 1 + rest.length
    rw [List.length_cons]
    omega

/-- **The rule for literals is the machine that reads once.** Wherever an apostrophe stands in a
text, the rule finds what the machine finds that goes on from there character by character: a
literal of the same value that ends at the same index, or the same fault, pointed out at the same
index. The value of a literal is the opening apostrophe and all that is behind it with its escape
sequences resolved at once. -/
theorem scanAt_string_onePass (surface : Surface) (h : text[index]? = some Text.apostrophe) :
    ∃ scan, Rule.string.scanAt surface text index = .ok (some scan) ∧
      scan.verdict? index = some (Literal.onePass text index) ∧
      ∀ token lexeme, scan = .token token lexeme → lexeme <+: text.drop index ∧
        token = .string (Text.apostrophe :: Literal.unescape lexeme.tail) := by
  obtain ⟨hindex, hc⟩ := List.getElem?_eq_some_iff.mp h
  have hdrop : text.drop index = Text.apostrophe :: text.drop (index + 1) := by
    rw [List.drop_eq_getElem_cons hindex, hc]
  obtain ⟨scan, hscan, hverdict⟩ := exists_scanString_verdict? (text.drop (index + 1)) index
  have hat : Rule.string.scanAt surface text index = .ok (some scan) := by
    rw [scanAt_of_lt hindex, hdrop]
    exact congrArg Except.ok hscan
  refine ⟨scan, hat, hverdict, ?_⟩
  rintro token lexeme rfl
  obtain ⟨hwritten, hfront⟩ := scanAt_string_eq_token_iff.mp hat
  refine ⟨hfront, ?_⟩
  cases hwritten with
  | string hbody =>
    rw [List.tail_cons, hbody.unescape_append]
    rfl

/-- A literal behind a letter, with an escaped backslash, apostrophe and line feed. -/
theorem scanAt_string_onePass_escapes :
    "x'a\\\\\\'\\\nb\\\\'y".toList[1]? = some Text.apostrophe ∧
      Literal.onePass "x'a\\\\\\'\\\nb\\\\'y".toList 1 = .closed "'a\\'\\\nb\\'".toList 13 ∧
      ∃ scan, Rule.string.scanAt Dialect.full.surface "x'a\\\\\\'\\\nb\\\\'y".toList 1 =
        .ok (some scan) ∧ scan.verdict? 1 = some (.closed "'a\\'\\\nb\\'".toList 13) := by
  have hquote : "x'a\\\\\\'\\\nb\\\\'y".toList[1]? = some Text.apostrophe := rfl
  have hverdict : Literal.onePass "x'a\\\\\\'\\\nb\\\\'y".toList 1 =
      .closed "'a\\'\\\nb\\'".toList 13 := rfl
  obtain ⟨scan, hscan, hsame, -⟩ := scanAt_string_onePass Dialect.full.surface hquote
  exact ⟨hquote, hverdict, scan, hscan, hsame.trans (congrArg some hverdict)⟩

end Rule

end ScriptLexer
