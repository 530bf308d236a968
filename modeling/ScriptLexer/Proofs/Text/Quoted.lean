import ScriptLexer.Text.Quoted
import Mathlib.Algebra.Group.Nat.Defs

set_option autoImplicit false

/-! # Quoted texts can be read back

Each character of a quoted text is written as itself or as an escape sequence, and what is written
for it can be told from what follows (`readChar_escapeChar`). With the mark that a quoted text
starts with, this gives the text back, so different texts are quoted differently
(`quoted_injective`). -/

namespace ScriptLexer.Text

/-! ## Hexadecimal digits -/

/-- The worth of a hexadecimal digit. -/
def hexDigitValue (c : Char) : Nat :=
  ((List.range 16).find? (·.digitChar == c)).getD 0

/-- The number that hexadecimal digits spell. -/
def hexValue (digits : Text) : Nat :=
  digits.foldl (fun value c => 16 * value + hexDigitValue c) 0

theorem hexDigitValue_digitChar {n : Nat} (h : n < 16) : hexDigitValue n.digitChar = n := by
  have hall : ∀ n < 16, hexDigitValue n.digitChar = n := by decide
  exact hall n h

theorem hexValue_concat (digits : Text) (c : Char) :
    hexValue (digits ++ [c]) = 16 * hexValue digits + hexDigitValue c := by
  rw [hexValue, List.foldl_append]
  rfl

theorem hexValue_toDigits (n : Nat) : hexValue (Nat.toDigits 16 n) = n := by
  induction n using Nat.strongRecOn with
  | ind n ih =>
    rw [Nat.toDigits_eq_if (by decide)]
    split
    next hlt =>
      show 16 * 0 + hexDigitValue n.digitChar = n
      rw [hexDigitValue_digitChar hlt, Nat.mul_zero, Nat.zero_add]
    next hle =>
      rw [hexValue_concat, ih (n / 16) (by omega), hexDigitValue_digitChar (by omega)]
      exact Nat.div_add_mod n 16

theorem hexValue_replicate_zero_append (count : Nat) (digits : Text) :
    hexValue (List.replicate count '0' ++ digits) = hexValue digits := by
  induction count with
  | zero => rfl
  | succ count ih => exact ih

theorem hexValue_hexDigits (width code : Nat) : hexValue (hexDigits width code) = code := by
  unfold hexDigits
  rw [hexValue_replicate_zero_append, hexValue_toDigits]

/-- A number that is small enough is written in exactly as many digits as asked for. -/
theorem length_hexDigits {width code : Nat} (hwidth : 0 < width) (hcode : code < 16 ^ width) :
    (hexDigits width code).length = width := by
  have hle := (Nat.length_toDigits_le_iff (by decide) hwidth).mpr hcode
  unfold hexDigits
  rw [List.length_append, List.length_replicate]
  omega

/-! ## Reading one character -/

/-- How many hexadecimal digits follow a letter behind a backslash, if any do. -/
def codeWidth? (c : Char) : Option Nat :=
  if c = 'x' then some 2
  else if c = 'u' then some 4
  else if c = 'U' then some 8
  else none

/-- What a letter stands for behind a backslash, if no digits follow it. -/
def escaped (c : Char) : Char :=
  if c = 'n' then lineFeed
  else if c = 'r' then carriageReturn
  else if c = 't' then '\t'
  else c

/-- The character that is written at the front of a text, and what follows it. -/
def readChar : Text → Option (Char × Text)
  | [] => none
  | '\\' :: [] => none
  | '\\' :: c :: rest =>
    match codeWidth? c with
    | some width => some (Char.ofNat (hexValue (rest.take width)), rest.drop width)
    | none => some (escaped c, rest)
  | c :: rest => some (c, rest)

theorem readChar_plain {c : Char} (hc : c ≠ backslash) (rest : Text) :
    readChar (c :: rest) = some (c, rest) := by
  rw [readChar]
  · intro h
    exact absurd h hc
  · intro d more h
    exact absurd h hc

theorem readChar_escape {c : Char} (hc : codeWidth? c = none) (rest : Text) :
    readChar (backslash :: c :: rest) = some (escaped c, rest) := by
  rw [readChar, hc]

theorem readChar_code {letter : Char} {width : Nat} (hletter : codeWidth? letter = some width)
    (hwidth : 0 < width) {code : Nat} (hcode : code < 16 ^ width) (rest : Text) :
    readChar (backslash :: letter :: hexDigits width code ++ rest) =
      some (Char.ofNat code, rest) := by
  have hlength := length_hexDigits hwidth hcode
  rw [List.cons_append, List.cons_append, readChar, hletter]
  show some (Char.ofNat (hexValue ((hexDigits width code ++ rest).take width)),
    (hexDigits width code ++ rest).drop width) = _
  rw [List.take_left' hlength, List.drop_left' hlength, hexValue_hexDigits]

theorem readChar_escapeCode (c : Char) (rest : Text) :
    readChar (escapeCode c.toNat ++ rest) = some (c, rest) := by
  have hlimit : c.toNat < 0x110000 := by
    rcases c.valid with h | h
    · exact Nat.lt_trans h (by decide)
    · exact h.2
  have hsame : Char.ofNat c.toNat = c := Char.ofNat_toNat c
  unfold escapeCode
  split
  next h => rw [readChar_code (by decide) (by decide) h, hsame]
  split
  next h => rw [readChar_code (by decide) (by decide) h, hsame]
  next h => rw [readChar_code (by decide) (by decide) (by omega), hsame]

/-- What is written for a character can be told from what follows it. -/
theorem readChar_escapeChar {mark : Char} (hmark : mark = apostrophe ∨ mark = doubleQuote)
    (c : Char) (rest : Text) : readChar (escapeChar mark c ++ rest) = some (c, rest) := by
  unfold escapeChar
  split
  next h =>
    have hplain : codeWidth? c = none ∧ escaped c = c := by
      rcases h with rfl | rfl
      · rcases hmark with rfl | rfl <;> decide
      · decide
    exact (readChar_escape hplain.1 rest).trans (by rw [hplain.2])
  next h =>
    rw [not_or] at h
    split
    next hfeed => exact (readChar_escape (by decide) rest).trans (by rw [hfeed]; rfl)
    split
    next hreturn => exact (readChar_escape (by decide) rest).trans (by rw [hreturn]; rfl)
    split
    next htab => exact (readChar_escape (by decide) rest).trans (by rw [htab]; rfl)
    split
    · exact readChar_plain h.2 rest
    · exact readChar_escapeCode c rest

/-! ## Reading a text -/

theorem isMark_quoteMark (text : Text) :
    quoteMark text = apostrophe ∨ quoteMark text = doubleQuote := by
  unfold quoteMark
  split
  · exact Or.inr rfl
  · exact Or.inl rfl

theorem flatMap_escapeChar_injective {mark : Char}
    (hmark : mark = apostrophe ∨ mark = doubleQuote) {a b : Text}
    (h : a.flatMap (escapeChar mark) = b.flatMap (escapeChar mark)) : a = b := by
  induction a generalizing b with
  | nil =>
    cases b with
    | nil => rfl
    | cons d b =>
      have hread := readChar_escapeChar hmark d (b.flatMap (escapeChar mark))
      rw [← List.flatMap_cons, ← h] at hread
      simp [readChar] at hread
  | cons c a ih =>
    have hread := readChar_escapeChar hmark c (a.flatMap (escapeChar mark))
    rw [← List.flatMap_cons, h] at hread
    cases b with
    | nil => simp [readChar] at hread
    | cons d b =>
      rw [List.flatMap_cons, readChar_escapeChar hmark] at hread
      obtain ⟨rfl, hrest⟩ := Prod.mk.inj (Option.some.inj hread)
      rw [ih hrest.symm]

/-- Different texts are quoted differently. -/
theorem quoted_injective {a b : Text} (h : a.quoted = b.quoted) : a = b := by
  unfold quoted at h
  obtain ⟨hmark, hbody⟩ := List.cons.inj h
  rw [hmark] at hbody
  exact flatMap_escapeChar_injective (isMark_quoteMark b) (List.append_cancel_right hbody)

end ScriptLexer.Text
