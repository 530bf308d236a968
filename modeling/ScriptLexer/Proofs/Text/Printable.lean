import ScriptLexer.Proofs.Text.Digits
import ScriptLexer.Token

set_option autoImplicit false

/-! # Tokens are shown by printable characters

Whatever a token holds, it is shown by characters that can be seen (`Token.allPrintable_text`): a
quoted text has escape sequences for all others, and everything else is made of visible ASCII
characters. So a token is shown on one line, wherever its position stands in front of it
(`LocatedToken.lineFeed_not_mem_line`). -/

namespace ScriptLexer

namespace Text

/-- Every character can be shown as itself. -/
def AllPrintable (text : Text) : Prop := ∀ c ∈ text, isPrintable c = true

/-- The character is a visible ASCII character or the space. -/
def isAsciiVisible (c : Char) : Bool := 0x20 ≤ c.toNat && c.toNat < 0x7F

theorem isPrintable_of_ascii {c : Char} (h : isAsciiVisible c = true) : isPrintable c = true := by
  have hranges : ∀ range ∈ unprintableRanges, range.last < 0x20 ∨ 0x7F ≤ range.first := by
    decide +kernel
  simp only [isAsciiVisible, Bool.and_eq_true, decide_eq_true_eq] at h
  rw [isPrintable, CodeRange.anyCovers, Bool.not_eq_true', List.any_eq_false]
  intro range hrange hcovers
  have := hranges range hrange
  simp only [CodeRange.covers, Bool.and_eq_true, decide_eq_true_eq] at hcovers
  omega

theorem isPrintable_of_isDigit {c : Char} (h : c.isDigit = true) : isPrintable c = true := by
  simp only [Char.isDigit, Bool.and_eq_true, decide_eq_true_eq] at h
  have hlow : 0x30 ≤ c.toNat := h.1
  have hhigh : c.toNat ≤ 0x39 := h.2
  apply isPrintable_of_ascii
  simp only [isAsciiVisible, Bool.and_eq_true, decide_eq_true_eq]
  omega

theorem allPrintable_of_ascii (text : Text) (h : text.all isAsciiVisible = true) :
    AllPrintable text :=
  fun c hc => isPrintable_of_ascii (List.all_eq_true.mp h c hc)

namespace AllPrintable

variable {a b : Text} {c : Char}

theorem nil : AllPrintable [] := by simp [AllPrintable]

theorem cons (hc : isPrintable c = true) (h : AllPrintable a) : AllPrintable (c :: a) := by
  intro d hd
  rcases List.mem_cons.mp hd with rfl | hd
  · exact hc
  · exact h d hd

theorem append (ha : AllPrintable a) (hb : AllPrintable b) : AllPrintable (a ++ b) := by
  intro c hc
  exact (List.mem_append.mp hc).elim (ha c) (hb c)

theorem of_subset (hb : AllPrintable b) (h : a ⊆ b) : AllPrintable a :=
  fun c hc => hb c (h hc)

theorem replicate (hc : isPrintable c = true) (count : Nat) :
    AllPrintable (List.replicate count c) := by
  intro d hd
  rwa [List.eq_of_mem_replicate hd]

theorem flatMap {f : Char → Text} (h : ∀ c, AllPrintable (f c)) : AllPrintable (a.flatMap f) := by
  intro c hc
  obtain ⟨d, -, hd⟩ := List.mem_flatMap.mp hc
  exact h d c hd

theorem lineFeed_not_mem (h : AllPrintable a) : lineFeed ∉ a :=
  fun hmem => absurd (h lineFeed hmem) (by decide)

end AllPrintable

theorem allPrintable_ofNat (n : Nat) : AllPrintable (ofNat n) :=
  fun _ hc => isPrintable_of_isDigit (isDigit_of_mem_ofNat hc)

theorem allPrintable_ofInt (n : Int) : AllPrintable (ofInt n) := by
  intro c hc
  rcases mem_ofInt hc with hdigit | rfl
  · exact isPrintable_of_isDigit hdigit
  · exact isPrintable_of_ascii rfl

/-! ## Quoted texts -/

theorem allPrintable_toDigits (n : Nat) : AllPrintable (Nat.toDigits 16 n) := by
  have hascii : ∀ d < 16, isAsciiVisible d.digitChar = true := by decide
  have hdigit : ∀ d < 16, isPrintable d.digitChar = true :=
    fun d hd => isPrintable_of_ascii (hascii d hd)
  induction n using Nat.strongRecOn with
  | ind n ih =>
    rw [Nat.toDigits_eq_if (by decide)]
    split
    next hlt => exact AllPrintable.nil.cons (hdigit n hlt)
    next hle =>
      have hlast := AllPrintable.nil.cons (hdigit (n % 16) (Nat.mod_lt n (by decide)))
      exact (ih (n / 16) (by omega)).append hlast

theorem allPrintable_hexDigits (width code : Nat) : AllPrintable (hexDigits width code) :=
  (AllPrintable.replicate (isPrintable_of_ascii rfl) _).append (allPrintable_toDigits code)

theorem allPrintable_escapeCode (code : Nat) : AllPrintable (escapeCode code) := by
  have hescape : ∀ (c : Char) (width : Nat), isPrintable c = true →
      AllPrintable (backslash :: c :: hexDigits width code) := by
    intro c width hc
    exact ((allPrintable_hexDigits width code).cons hc).cons (isPrintable_of_ascii rfl)
  unfold escapeCode
  split
  · exact hescape _ _ (isPrintable_of_ascii rfl)
  split
  · exact hescape _ _ (isPrintable_of_ascii rfl)
  · exact hescape _ _ (isPrintable_of_ascii rfl)

theorem isPrintable_quoteMark (text : Text) : isPrintable (quoteMark text) = true := by
  unfold quoteMark
  split
  · exact isPrintable_of_ascii rfl
  · exact isPrintable_of_ascii rfl

theorem allPrintable_escapeChar {mark : Char} (hmark : isPrintable mark = true) (c : Char) :
    AllPrintable (escapeChar mark c) := by
  have hpair : ∀ d : Char, isPrintable d = true → AllPrintable [backslash, d] := by
    intro d hd
    exact (AllPrintable.nil.cons hd).cons (isPrintable_of_ascii rfl)
  unfold escapeChar
  split
  next h =>
    rcases h with rfl | rfl
    · exact hpair _ hmark
    · exact hpair _ (isPrintable_of_ascii rfl)
  split
  · exact hpair _ (isPrintable_of_ascii rfl)
  split
  · exact hpair _ (isPrintable_of_ascii rfl)
  split
  · exact hpair _ (isPrintable_of_ascii rfl)
  split
  next h => exact AllPrintable.nil.cons h
  · exact allPrintable_escapeCode _

theorem allPrintable_quoted (text : Text) : AllPrintable text.quoted := by
  have hmark := isPrintable_quoteMark text
  have hinner : AllPrintable (text.flatMap (escapeChar (quoteMark text))) :=
    AllPrintable.flatMap (allPrintable_escapeChar hmark)
  exact (hinner.append (AllPrintable.nil.cons hmark)).cons hmark

end Text

/-! ## Numbers -/

namespace Layout

variable {digits : Text}

theorem allPrintable_positional (h : digits.AllPrintable) (point : Int) :
    (positional digits point).AllPrintable := by
  have hzero : Text.isPrintable '0' = true := Text.isPrintable_of_ascii rfl
  have hpoint : Text.isPrintable '.' = true := Text.isPrintable_of_ascii rfl
  have hzeros : ∀ count, Text.AllPrintable (List.replicate count '0') :=
    Text.AllPrintable.replicate hzero
  unfold positional
  split
  next count =>
    split
    · exact (h.cons hpoint).cons hzero
    · have hwhole := (h.of_subset (List.take_subset count digits)).append
        (hzeros (count - digits.length))
      refine hwhole.append (Text.AllPrintable.cons hpoint ?_)
      split
      · exact hzeros 1
      · exact h.of_subset (List.drop_subset count digits)
  next zeros =>
    exact (((hzeros (zeros + 1)).append h).cons hpoint).cons hzero

theorem allPrintable_exponent (power : Int) : (exponent power).AllPrintable := by
  have hdigits := (Text.AllPrintable.replicate (c := '0') (Text.isPrintable_of_ascii rfl)
    (2 - (Text.ofNat power.natAbs).length)).append (Text.allPrintable_ofNat power.natAbs)
  unfold exponent
  refine (hdigits.cons ?_).cons (Text.isPrintable_of_ascii rfl)
  split
  · exact Text.isPrintable_of_ascii rfl
  · exact Text.isPrintable_of_ascii rfl

theorem allPrintable_scientific (h : digits.AllPrintable) (power : Int) :
    (scientific digits power).AllPrintable := by
  unfold scientific
  refine ((h.of_subset (List.take_subset 1 digits)).append ?_).append
    (allPrintable_exponent power)
  split
  · exact Text.AllPrintable.nil
  · exact (h.of_subset (List.drop_subset 1 digits)).cons (Text.isPrintable_of_ascii rfl)

end Layout

theorem Text.trimEnd_subset (drop : Char → Bool) (text : Text) : trimEnd drop text ⊆ text := by
  intro c hc
  rw [trimEnd, List.mem_reverse] at hc
  exact List.mem_reverse.mp ((List.dropWhile_sublist drop).subset hc)

theorem Decimal.allPrintable_text (decimal : Decimal) : decimal.text.AllPrintable := by
  have hdigits : decimal.significantDigits.AllPrintable :=
    (Text.allPrintable_ofNat decimal.coefficient).of_subset (Text.trimEnd_subset _ _)
  simp only [Decimal.text]
  split
  · exact Text.allPrintable_of_ascii "0.0".toList rfl
  split
  · exact Layout.allPrintable_positional hdigits _
  · exact Layout.allPrintable_scientific hdigits _

theorem Number.allPrintable_text (number : Number) : number.text.AllPrintable := by
  have hsize : number.magnitude.text.AllPrintable := by
    cases number.magnitude with
    | finite units => exact Decimal.allPrintable_text _
    | infinite => exact Text.allPrintable_of_ascii "inf".toList rfl
  unfold Number.text
  split
  · exact hsize.cons (Text.isPrintable_of_ascii rfl)
  · exact hsize

/-! ## Tokens -/

theorem Token.allPrintable_text (token : Token) : token.text.AllPrintable := by
  have hkind : token.kindName.AllPrintable := by
    cases token with
    | identifier _ => exact Text.allPrintable_of_ascii "IDENTIFIER".toList rfl
    | number _ => exact Text.allPrintable_of_ascii "NUMBER".toList rfl
    | operator _ => exact Text.allPrintable_of_ascii "OPERATOR".toList rfl
    | string _ => exact Text.allPrintable_of_ascii "STRING".toList rfl
    | lineBreak => exact Text.allPrintable_of_ascii "LINE_BREAK".toList rfl
  have hpayload : ∀ shown, token.payloadText? = some shown → shown.AllPrintable := by
    intro shown h
    cases token with
    | identifier name => exact Option.some.inj h ▸ Text.allPrintable_quoted name
    | number value => exact Option.some.inj h ▸ value.allPrintable_text
    | operator op =>
      obtain rfl := Option.some.inj h
      refine Text.allPrintable_of_ascii op.name ?_
      cases op <;> rfl
    | string value => exact Option.some.inj h ▸ Text.allPrintable_quoted value
    | lineBreak => simp [payloadText?] at h
  have hopen := Text.allPrintable_of_ascii "Token(".toList rfl
  have hcomma := Text.allPrintable_of_ascii ", ".toList rfl
  have hclose := Text.allPrintable_of_ascii [')'] rfl
  unfold text
  refine ((hopen.append hkind).append ?_).append hclose
  split
  next shown h => exact hcomma.append (hpayload shown h)
  · exact Text.AllPrintable.nil

theorem Position.allPrintable_text (p : Position) : p.text.AllPrintable := by
  unfold text
  exact (Text.allPrintable_ofInt p.row).append
    ((Text.allPrintable_ofInt p.col).cons (Text.isPrintable_of_ascii rfl))

namespace LocatedToken

variable {located : LocatedToken} {positions : Bool}

/-- The characters of a line that shows a token are printable, or the tab. -/
theorem mem_line {c : Char} (h : c ∈ located.line positions) :
    Text.isPrintable c = true ∨ c = '\t' := by
  unfold line at h
  split at h
  · rcases List.mem_append.mp h with h | h
    · exact Or.inl (located.position.allPrintable_text c h)
    · rcases List.mem_cons.mp h with rfl | h
      · exact Or.inr rfl
      · exact Or.inl (located.token.allPrintable_text c h)
  · exact Or.inl (located.token.allPrintable_text c h)

/-- A token is shown on one line. -/
theorem lineFeed_not_mem_line (located : LocatedToken) (positions : Bool) :
    Text.lineFeed ∉ located.line positions := by
  intro hmem
  exact (mem_line hmem).elim (fun h => absurd h (by decide)) fun h => absurd h (by decide)

end LocatedToken

end ScriptLexer
