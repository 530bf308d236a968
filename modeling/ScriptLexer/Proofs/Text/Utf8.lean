import ScriptLexer.Text.Utf8

set_option autoImplicit false

/-! # UTF-8 is decoded exactly

A text is decoded from the bytes that it is encoded as, and from no others (`decode_eq_ok_iff`).
The limits that a lead byte sets for the byte behind it are what keeps longer forms, surrogates
and codes beyond the last one out: a sequence within the limits is the encoding of its code
(`front?_eq_some_iff`). For a file, the byte order mark in front is left aside, and two files that
hold only the beginning of one are read as empty (`decodeFile_eq_ok_iff`). -/

namespace ScriptLexer.Utf8

/-! ## Lead bytes -/

section

variable {byte : UInt8}

theorem ByteRange.covers_iff {range : ByteRange} :
    range.covers byte = true ↔
      range.first.toNat ≤ byte.toNat ∧ byte.toNat ≤ range.last.toNat := by
  simp [covers, UInt8.le_iff_toNat_le]

theorem covers_continuation :
    continuation.covers byte = true ↔ 0x80 ≤ byte.toNat ∧ byte.toNat < 0xC0 := by
  rw [ByteRange.covers_iff]
  show 0x80 ≤ byte.toNat ∧ byte.toNat ≤ 0xBF ↔ _
  omega

theorem leading_none (h : 0x80 ≤ byte.toNat ∧ byte.toNat < 0xC2 ∨ 0xF5 ≤ byte.toNat) :
    leading byte = none := by
  simp only [leading]
  rw [if_neg (by omega)]
  rcases h with h | h
  · rw [if_pos h.2]
  · repeat rw [if_neg (by omega)]

theorem leading_one (h : byte.toNat < 0x80) : leading byte = some ([], byte.toNat) := by
  simp only [leading]
  rw [if_pos h]

theorem leading_two (hlow : 0xC2 ≤ byte.toNat) (hhigh : byte.toNat < 0xE0) :
    leading byte = some ([continuation], byte.toNat - 0xC0) := by
  simp only [leading]
  rw [if_neg (by omega), if_neg (by omega), if_pos hhigh]

/-- The second of three bytes rules out two-byte codes and surrogates. -/
theorem leading_three (hlow : 0xE0 ≤ byte.toNat) (hhigh : byte.toNat < 0xF0) :
    ∃ range, leading byte = some ([range, continuation], byte.toNat - 0xE0) ∧
      ∀ next, range.covers next = true ↔ (0x80 ≤ next.toNat ∧ next.toNat < 0xC0) ∧
        (byte.toNat = 0xE0 → 0xA0 ≤ next.toNat) ∧ (byte.toNat = 0xED → next.toNat < 0xA0) := by
  simp only [leading]
  rw [if_neg (by omega), if_neg (by omega), if_neg (by omega)]
  -- behind 0xE0 a low byte would spell a code of two bytes, behind 0xED a high one a surrogate
  by_cases hE0 : byte.toNat = 0xE0
  · refine ⟨⟨0xA0, 0xBF⟩, by rw [if_pos hE0, hE0], fun next => ?_⟩
    rw [ByteRange.covers_iff]
    show 0xA0 ≤ next.toNat ∧ next.toNat ≤ 0xBF ↔ _
    omega
  by_cases hED : byte.toNat = 0xED
  · refine ⟨⟨0x80, 0x9F⟩, by rw [if_neg hE0, if_pos hED, hED], fun next => ?_⟩
    rw [ByteRange.covers_iff]
    show 0x80 ≤ next.toNat ∧ next.toNat ≤ 0x9F ↔ _
    omega
  · refine ⟨continuation, by rw [if_neg hE0, if_neg hED, if_pos hhigh], fun next => ?_⟩
    rw [covers_continuation]
    omega

/-- The second of four bytes rules out three-byte codes and those beyond the last one. -/
theorem leading_four (hlow : 0xF0 ≤ byte.toNat) (hhigh : byte.toNat < 0xF5) :
    ∃ range, leading byte = some ([range, continuation, continuation], byte.toNat - 0xF0) ∧
      ∀ next, range.covers next = true ↔ (0x80 ≤ next.toNat ∧ next.toNat < 0xC0) ∧
        (byte.toNat = 0xF0 → 0x90 ≤ next.toNat) ∧ (byte.toNat = 0xF4 → next.toNat < 0x90) := by
  simp only [leading]
  rw [if_neg (by omega), if_neg (by omega), if_neg (by omega), if_neg (by omega),
    if_neg (by omega), if_neg (by omega)]
  -- behind 0xF0 a low byte would spell a code of three bytes, behind 0xF4 a high one no code
  by_cases hF0 : byte.toNat = 0xF0
  · refine ⟨⟨0x90, 0xBF⟩, by rw [if_pos hF0, hF0], fun next => ?_⟩
    rw [ByteRange.covers_iff]
    show 0x90 ≤ next.toNat ∧ next.toNat ≤ 0xBF ↔ _
    omega
  by_cases hF4 : byte.toNat = 0xF4
  · refine ⟨⟨0x80, 0x8F⟩, by rw [if_neg hF0, if_neg (by omega), if_pos hF4, hF4], fun next => ?_⟩
    rw [ByteRange.covers_iff]
    show 0x80 ≤ next.toNat ∧ next.toNat ≤ 0x8F ↔ _
    omega
  · refine ⟨continuation, by rw [if_neg hF0, if_pos (by omega)], fun next => ?_⟩
    rw [covers_continuation]
    omega

end

/-! ## One character -/

theorem extend_cons_eq_ok_iff {range : ByteRange} {ranges : List ByteRange} {code whole : Nat}
    {bytes rest : List UInt8} :
    extend (range :: ranges) code bytes = .ok (whole, rest) ↔
      ∃ byte more, bytes = byte :: more ∧ range.covers byte = true ∧
        extend ranges (code * 64 + byte.toNat % 64) more = .ok (whole, rest) := by
  cases bytes with
  | nil => simp [extend]
  | cons byte more =>
    simp only [extend]
    constructor
    · intro h
      split at h
      next hcovers =>
        refine ⟨byte, more, rfl, hcovers, ?_⟩
        split at h
        next heq => rw [heq, h]
        next => simp at h
      next => simp at h
    · rintro ⟨byte', more', heq, hcovers, hrest⟩
      obtain ⟨rfl, rfl⟩ := List.cons.inj heq
      rw [if_pos hcovers, hrest]

theorem extend_nil_eq_ok_iff {code whole : Nat} {bytes rest : List UInt8} :
    extend [] code bytes = .ok (whole, rest) ↔ whole = code ∧ rest = bytes := by
  simp only [extend, Except.ok.injEq, Prod.mk.injEq]
  exact and_congr eq_comm eq_comm

/-- A code that is not that of a surrogate is the code of a character. -/
theorem exists_char (code : Nat) (h : code < 0xD800 ∨ 0xDFFF < code ∧ code < 0x110000) :
    ∃ c : Char, c.toNat = code :=
  ⟨Char.ofNatAux code h, rfl⟩

theorem toUInt8_eq {byte : UInt8} {n : Nat} (h : n = byte.toNat) : n.toUInt8 = byte := by
  subst h
  exact UInt8.ofNat_toNat

theorem toNat_toUInt8 {n : Nat} (h : n < 0x100) : n.toUInt8.toNat = n := by
  rw [Nat.toUInt8, UInt8.toNat_ofNat', Nat.mod_eq_of_lt h]

/-! ### The bytes of a character -/

section

variable {c : Char}

theorem encodeChar_one (h : c.toNat < 0x80) : encodeChar c = [c.toNat.toUInt8] := by
  simp only [encodeChar]
  rw [if_pos h]

theorem encodeChar_two (hlow : 0x80 ≤ c.toNat) (hhigh : c.toNat < 0x800) :
    encodeChar c = [(0xC0 + c.toNat / 64).toUInt8, (0x80 + c.toNat % 64).toUInt8] := by
  simp only [encodeChar]
  rw [if_neg (by omega), if_pos hhigh]

theorem encodeChar_three (hlow : 0x800 ≤ c.toNat) (hhigh : c.toNat < 0x10000) :
    encodeChar c = [(0xE0 + c.toNat / 4096).toUInt8, (0x80 + c.toNat / 64 % 64).toUInt8,
      (0x80 + c.toNat % 64).toUInt8] := by
  simp only [encodeChar]
  rw [if_neg (by omega), if_neg (by omega), if_pos hhigh]

theorem encodeChar_four (hlow : 0x10000 ≤ c.toNat) :
    encodeChar c = [(0xF0 + c.toNat / 262144).toUInt8, (0x80 + c.toNat / 4096 % 64).toUInt8,
      (0x80 + c.toNat / 64 % 64).toUInt8, (0x80 + c.toNat % 64).toUInt8] := by
  simp only [encodeChar]
  rw [if_neg (by omega), if_neg (by omega), if_neg (by omega)]

end

/-! ### Bytes within the limits are a character -/

section

variable {first second third fourth : UInt8}

theorem exists_encodeChar_one (h : first.toNat < 0x80) :
    ∃ c : Char, c.toNat = first.toNat ∧ encodeChar c = [first] := by
  obtain ⟨c, hc⟩ := exists_char first.toNat (by omega)
  refine ⟨c, hc, ?_⟩
  rw [encodeChar_one (by omega), toUInt8_eq hc]

theorem exists_encodeChar_two (hfirst : 0xC2 ≤ first.toNat ∧ first.toNat < 0xE0)
    (hsecond : 0x80 ≤ second.toNat ∧ second.toNat < 0xC0) :
    ∃ c : Char, c.toNat = (first.toNat - 0xC0) * 64 + second.toNat % 64 ∧
      encodeChar c = [first, second] := by
  obtain ⟨c, hc⟩ := exists_char ((first.toNat - 0xC0) * 64 + second.toNat % 64) (by omega)
  have h1 : 0xC0 + c.toNat / 64 = first.toNat := by omega
  have h2 : 0x80 + c.toNat % 64 = second.toNat := by omega
  refine ⟨c, hc, ?_⟩
  rw [encodeChar_two (by omega) (by omega), toUInt8_eq h1, toUInt8_eq h2]

theorem exists_encodeChar_three (hfirst : 0xE0 ≤ first.toNat ∧ first.toNat < 0xF0)
    (hsecond : (0x80 ≤ second.toNat ∧ second.toNat < 0xC0) ∧
      (first.toNat = 0xE0 → 0xA0 ≤ second.toNat) ∧ (first.toNat = 0xED → second.toNat < 0xA0))
    (hthird : 0x80 ≤ third.toNat ∧ third.toNat < 0xC0) :
    ∃ c : Char, c.toNat =
        ((first.toNat - 0xE0) * 64 + second.toNat % 64) * 64 + third.toNat % 64 ∧
      encodeChar c = [first, second, third] := by
  -- the limits of the second byte keep the code from 0x800 on, and out of the surrogates
  obtain ⟨c, hc⟩ := exists_char
    (((first.toNat - 0xE0) * 64 + second.toNat % 64) * 64 + third.toNat % 64) (by omega)
  have h1 : 0xE0 + c.toNat / 4096 = first.toNat := by omega
  have h2 : 0x80 + c.toNat / 64 % 64 = second.toNat := by omega
  have h3 : 0x80 + c.toNat % 64 = third.toNat := by omega
  refine ⟨c, hc, ?_⟩
  rw [encodeChar_three (by omega) (by omega), toUInt8_eq h1, toUInt8_eq h2, toUInt8_eq h3]

theorem exists_encodeChar_four (hfirst : 0xF0 ≤ first.toNat ∧ first.toNat < 0xF5)
    (hsecond : (0x80 ≤ second.toNat ∧ second.toNat < 0xC0) ∧
      (first.toNat = 0xF0 → 0x90 ≤ second.toNat) ∧ (first.toNat = 0xF4 → second.toNat < 0x90))
    (hthird : 0x80 ≤ third.toNat ∧ third.toNat < 0xC0)
    (hfourth : 0x80 ≤ fourth.toNat ∧ fourth.toNat < 0xC0) :
    ∃ c : Char, c.toNat = (((first.toNat - 0xF0) * 64 + second.toNat % 64) * 64 +
        third.toNat % 64) * 64 + fourth.toNat % 64 ∧
      encodeChar c = [first, second, third, fourth] := by
  obtain ⟨c, hc⟩ := exists_char ((((first.toNat - 0xF0) * 64 + second.toNat % 64) * 64 +
    third.toNat % 64) * 64 + fourth.toNat % 64) (by omega)
  have h1 : 0xF0 + c.toNat / 262144 = first.toNat := by omega
  have h2 : 0x80 + c.toNat / 4096 % 64 = second.toNat := by omega
  have h3 : 0x80 + c.toNat / 64 % 64 = third.toNat := by omega
  have h4 : 0x80 + c.toNat % 64 = fourth.toNat := by omega
  refine ⟨c, hc, ?_⟩
  rw [encodeChar_four (by omega), toUInt8_eq h1, toUInt8_eq h2, toUInt8_eq h3, toUInt8_eq h4]

end

/-- The front of the bytes, given that the lead byte and what continues it spell a code, is the
encoding of a character with this code. -/
theorem exists_encodeChar_of_extend {byte : UInt8} {ranges : List ByteRange} {part code : Nat}
    {bytes rest : List UInt8} (hlead : leading byte = some (ranges, part))
    (hextend : extend ranges part bytes = .ok (code, rest)) :
    ∃ c : Char, c.toNat = code ∧ byte :: bytes = encodeChar c ++ rest := by
  -- the lead byte tells how many bytes follow, so the cases are its classes
  by_cases hone : byte.toNat < 0x80
  · rw [leading_one hone] at hlead
    obtain ⟨rfl, rfl⟩ := Prod.mk.inj (Option.some.inj hlead)
    obtain ⟨rfl, rfl⟩ := extend_nil_eq_ok_iff.mp hextend
    obtain ⟨c, hc, hbytes⟩ := exists_encodeChar_one hone
    exact ⟨c, hc, by rw [hbytes]; rfl⟩
  by_cases hnone : byte.toNat < 0xC2 ∨ 0xF5 ≤ byte.toNat
  · rw [leading_none (by omega)] at hlead
    simp at hlead
  by_cases htwo : byte.toNat < 0xE0
  · rw [leading_two (by omega) htwo] at hlead
    obtain ⟨rfl, rfl⟩ := Prod.mk.inj (Option.some.inj hlead)
    obtain ⟨second, _, rfl, hsecond, hextend⟩ := extend_cons_eq_ok_iff.mp hextend
    obtain ⟨rfl, rfl⟩ := extend_nil_eq_ok_iff.mp hextend
    obtain ⟨c, hc, hbytes⟩ :=
      exists_encodeChar_two ⟨by omega, htwo⟩ (covers_continuation.mp hsecond)
    exact ⟨c, hc, by rw [hbytes]; rfl⟩
  by_cases hthree : byte.toNat < 0xF0
  · obtain ⟨range, hleading, hrange⟩ := leading_three (by omega) hthree
    rw [hleading] at hlead
    obtain ⟨rfl, rfl⟩ := Prod.mk.inj (Option.some.inj hlead)
    obtain ⟨second, _, rfl, hsecond, hextend⟩ := extend_cons_eq_ok_iff.mp hextend
    obtain ⟨third, _, rfl, hthird, hextend⟩ := extend_cons_eq_ok_iff.mp hextend
    obtain ⟨rfl, rfl⟩ := extend_nil_eq_ok_iff.mp hextend
    obtain ⟨c, hc, hbytes⟩ := exists_encodeChar_three ⟨by omega, hthree⟩
      ((hrange second).mp hsecond) (covers_continuation.mp hthird)
    exact ⟨c, hc, by rw [hbytes]; rfl⟩
  · obtain ⟨range, hleading, hrange⟩ := @leading_four byte (by omega) (by omega)
    rw [hleading] at hlead
    obtain ⟨rfl, rfl⟩ := Prod.mk.inj (Option.some.inj hlead)
    obtain ⟨second, _, rfl, hsecond, hextend⟩ := extend_cons_eq_ok_iff.mp hextend
    obtain ⟨third, _, rfl, hthird, hextend⟩ := extend_cons_eq_ok_iff.mp hextend
    obtain ⟨fourth, _, rfl, hfourth, hextend⟩ := extend_cons_eq_ok_iff.mp hextend
    obtain ⟨rfl, rfl⟩ := extend_nil_eq_ok_iff.mp hextend
    obtain ⟨c, hc, hbytes⟩ := exists_encodeChar_four ⟨by omega, by omega⟩
      ((hrange second).mp hsecond) (covers_continuation.mp hthird)
      (covers_continuation.mp hfourth)
    exact ⟨c, hc, by rw [hbytes]; rfl⟩

/-- The encoding of a character has a lead byte and what continues it to the code. -/
theorem exists_extend_of_encodeChar (c : Char) (rest : List UInt8) :
    ∃ byte bytes ranges part, encodeChar c ++ rest = byte :: bytes ∧
      leading byte = some (ranges, part) ∧ extend ranges part bytes = .ok (c.toNat, rest) := by
  have hvalid : c.toNat < 0xD800 ∨ 0xDFFF < c.toNat ∧ c.toNat < 0x110000 := c.valid
  by_cases hone : c.toNat < 0x80
  · have h1 : c.toNat.toUInt8.toNat = c.toNat := toNat_toUInt8 (by omega)
    rw [encodeChar_one hone]
    refine ⟨_, _, _, _, rfl, leading_one (by omega), ?_⟩
    exact extend_nil_eq_ok_iff.mpr ⟨h1.symm, rfl⟩
  by_cases htwo : c.toNat < 0x800
  · have h1 : (0xC0 + c.toNat / 64).toUInt8.toNat = 0xC0 + c.toNat / 64 :=
      toNat_toUInt8 (by omega)
    have h2 : (0x80 + c.toNat % 64).toUInt8.toNat = 0x80 + c.toNat % 64 :=
      toNat_toUInt8 (by omega)
    rw [encodeChar_two (by omega) htwo]
    refine ⟨_, _, _, _, rfl, leading_two (by omega) (by omega), ?_⟩
    refine extend_cons_eq_ok_iff.mpr ⟨_, _, rfl, covers_continuation.mpr (by omega), ?_⟩
    exact extend_nil_eq_ok_iff.mpr ⟨by omega, rfl⟩
  by_cases hthree : c.toNat < 0x10000
  · have h1 : (0xE0 + c.toNat / 4096).toUInt8.toNat = 0xE0 + c.toNat / 4096 :=
      toNat_toUInt8 (by omega)
    have h2 : (0x80 + c.toNat / 64 % 64).toUInt8.toNat = 0x80 + c.toNat / 64 % 64 :=
      toNat_toUInt8 (by omega)
    have h3 : (0x80 + c.toNat % 64).toUInt8.toNat = 0x80 + c.toNat % 64 :=
      toNat_toUInt8 (by omega)
    rw [encodeChar_three (by omega) hthree]
    obtain ⟨range, hleading, hrange⟩ :=
      @leading_three (0xE0 + c.toNat / 4096).toUInt8 (by omega) (by omega)
    refine ⟨_, _, _, _, rfl, hleading, ?_⟩
    refine extend_cons_eq_ok_iff.mpr ⟨_, _, rfl, (hrange _).mpr (by omega), ?_⟩
    refine extend_cons_eq_ok_iff.mpr ⟨_, _, rfl, covers_continuation.mpr (by omega), ?_⟩
    exact extend_nil_eq_ok_iff.mpr ⟨by omega, rfl⟩
  · have h1 : (0xF0 + c.toNat / 262144).toUInt8.toNat = 0xF0 + c.toNat / 262144 :=
      toNat_toUInt8 (by omega)
    have h2 : (0x80 + c.toNat / 4096 % 64).toUInt8.toNat = 0x80 + c.toNat / 4096 % 64 :=
      toNat_toUInt8 (by omega)
    have h3 : (0x80 + c.toNat / 64 % 64).toUInt8.toNat = 0x80 + c.toNat / 64 % 64 :=
      toNat_toUInt8 (by omega)
    have h4 : (0x80 + c.toNat % 64).toUInt8.toNat = 0x80 + c.toNat % 64 :=
      toNat_toUInt8 (by omega)
    rw [encodeChar_four (by omega)]
    obtain ⟨range, hleading, hrange⟩ :=
      @leading_four (0xF0 + c.toNat / 262144).toUInt8 (by omega) (by omega)
    refine ⟨_, _, _, _, rfl, hleading, ?_⟩
    refine extend_cons_eq_ok_iff.mpr ⟨_, _, rfl, (hrange _).mpr (by omega), ?_⟩
    refine extend_cons_eq_ok_iff.mpr ⟨_, _, rfl, covers_continuation.mpr (by omega), ?_⟩
    refine extend_cons_eq_ok_iff.mpr ⟨_, _, rfl, covers_continuation.mpr (by omega), ?_⟩
    exact extend_nil_eq_ok_iff.mpr ⟨by omega, rfl⟩

/-! ## Texts -/

theorem decodeFrom_nil (start : Nat) : decodeFrom start [] = .ok [] := by
  rw [decodeFrom]

/-- The step of decoding at a character. -/
theorem decodeFrom_cons {byte : UInt8} {bytes rest : List UInt8} {ranges : List ByteRange}
    {part code : Nat} (hlead : leading byte = some (ranges, part))
    (hextend : extend ranges part bytes = .ok (code, rest)) (start : Nat) :
    decodeFrom start (byte :: bytes) =
      (decodeFrom (start + 1 + ranges.length) rest).map (Char.ofNat code :: ·) := by
  rw [decodeFrom]
  split
  next heq => rw [hlead] at heq; simp at heq
  next heq =>
    rw [hlead] at heq
    obtain ⟨rfl, rfl⟩ := Prod.mk.inj (Option.some.inj heq)
    split
    next heq => rw [hextend] at heq; simp at heq
    next heq =>
      rw [hextend] at heq
      obtain ⟨rfl, rfl⟩ := Prod.mk.inj (Except.ok.inj heq)
      rfl

/-- Decoding without a fault starts with a character. -/
theorem exists_of_decodeFrom_cons {byte : UInt8} {bytes : List UInt8} {start : Nat} {text : Text}
    (h : decodeFrom start (byte :: bytes) = .ok text) :
    ∃ ranges part code rest more, leading byte = some (ranges, part) ∧
      extend ranges part bytes = .ok (code, rest) ∧ text = Char.ofNat code :: more ∧
      decodeFrom (start + 1 + ranges.length) rest = .ok more := by
  rw [decodeFrom] at h
  split at h
  · simp at h
  next ranges part hlead =>
    split at h
    · simp at h
    next code rest hextend =>
      cases hmore : decodeFrom (start + 1 + ranges.length) rest with
      | error fault => simp [hmore, Except.map] at h
      | ok more =>
        rw [hmore] at h
        exact ⟨ranges, part, code, rest, more, hlead, hextend, (Except.ok.inj h).symm, hmore⟩

/-- **A text is decoded exactly from its encoding.** -/
theorem decodeFrom_eq_ok_iff {start : Nat} {bytes : List UInt8} {text : Text} :
    decodeFrom start bytes = .ok text ↔ bytes = encode text := by
  constructor
  · intro h
    -- one character is taken at a time, so the induction is on the text and not on the bytes
    induction text generalizing start bytes with
    | nil =>
      cases bytes with
      | nil => rfl
      | cons byte bytes =>
        obtain ⟨_, _, _, _, _, _, _, htext, _⟩ := exists_of_decodeFrom_cons h
        simp at htext
    | cons c text ih =>
      cases bytes with
      | nil =>
        rw [decodeFrom_nil] at h
        simp at h
      | cons byte bytes =>
        obtain ⟨_, _, code, rest, _, hlead, hextend, htext, hrest⟩ := exists_of_decodeFrom_cons h
        obtain ⟨rfl, rfl⟩ := List.cons.inj htext
        obtain ⟨d, rfl, hbytes⟩ := exists_encodeChar_of_extend hlead hextend
        rw [hbytes, ih hrest, Char.ofNat_toNat]
        rfl
  · rintro rfl
    induction text generalizing start with
    | nil => exact decodeFrom_nil start
    | cons c text ih =>
      obtain ⟨byte, bytes, ranges, part, hbytes, hlead, hextend⟩ :=
        exists_extend_of_encodeChar c (encode text)
      show decodeFrom start (encodeChar c ++ encode text) = _
      rw [hbytes, decodeFrom_cons hlead hextend, ih, Char.ofNat_toNat]
      rfl

theorem decode_eq_ok_iff {bytes : List UInt8} {text : Text} :
    decode bytes = .ok text ↔ bytes = encode text := decodeFrom_eq_ok_iff

/-! ## Files -/

/-- The bytes without a byte order mark in front. -/
def withoutMark : List UInt8 → List UInt8
  | 0xEF :: 0xBB :: 0xBF :: rest => rest
  | bytes => bytes

theorem withoutMark_eq_self {bytes : List UInt8} (h : ¬byteOrderMark <+: bytes) :
    withoutMark bytes = bytes := by
  unfold withoutMark
  split
  next rest => exact absurd ⟨rest, rfl⟩ h
  · rfl

/-- The encoding of a text starts with a byte order mark only if the text does. -/
theorem withoutMark_encode {text : Text} (h : text.head? ≠ some '\uFEFF') :
    withoutMark (encode text) = encode text := by
  apply withoutMark_eq_self
  rintro ⟨rest, hrest⟩
  cases text with
  | nil => exact absurd hrest (List.cons_ne_nil _ _)
  | cons c more =>
    obtain ⟨byte, bytes, ranges, part, hbytes, hlead, hextend⟩ :=
      exists_extend_of_encodeChar c (encode more)
    have hmark : byteOrderMark ++ rest = byte :: bytes := hrest.trans hbytes
    obtain ⟨rfl, rfl⟩ := List.cons.inj hmark
    -- the three bytes are read as one character
    obtain ⟨rfl, rfl⟩ : [continuation, continuation] = ranges ∧ 0xF = part :=
      Prod.mk.inj (Option.some.inj (show leading 0xEF = _ from hlead))
    have hcode : (0xFEFF : Nat) = c.toNat :=
      (Prod.mk.inj (Except.ok.inj (show extend [continuation, continuation] 0xF
        (0xBB :: 0xBF :: rest) = _ from hextend))).1
    exact h (congrArg some (Char.toNat_inj.mp hcode.symm))

/-- The file is no more than the beginning of a byte order mark. -/
def IsTruncatedMark (bytes : List UInt8) : Prop := bytes = [0xEF] ∨ bytes = [0xEF, 0xBB]

theorem decodeFile_of_isTruncatedMark {bytes : List UInt8} (h : IsTruncatedMark bytes) :
    decodeFile bytes = .ok [] := by
  rcases h with rfl | rfl
  · rfl
  · rfl

/-- The beginning of a byte order mark alone is no text in UTF-8. -/
theorem IsTruncatedMark.decode_ne_ok {bytes : List UInt8} (h : IsTruncatedMark bytes)
    (text : Text) : decode bytes ≠ .ok text := by
  have hlead : leading 0xEF = some ([continuation, continuation], 0xF) := by decide
  intro hok
  rcases h with rfl | rfl
  all_goals
    obtain ⟨ranges, part, code, rest, more, hlead', hextend, -⟩ := exists_of_decodeFrom_cons hok
    rw [hlead] at hlead'
    obtain ⟨rfl, rfl⟩ := Prod.mk.inj (Option.some.inj hlead')
    simp [extend, ByteRange.covers, continuation] at hextend

theorem decodeFile_eq_decode {bytes : List UInt8} (h : ¬IsTruncatedMark bytes) :
    decodeFile bytes = decode (withoutMark bytes) := by
  unfold decodeFile
  split
  · exact absurd (Or.inl rfl) h
  · exact absurd (Or.inr rfl) h
  · rfl
  next hmark =>
    rw [withoutMark_eq_self]
    rintro ⟨rest, rfl⟩
    exact hmark rest rfl

/-- The text of a file is the one that its bytes encode behind the mark. -/
theorem decodeFile_eq_ok {bytes : List UInt8} {text : Text} (h : withoutMark bytes = encode text) :
    decodeFile bytes = .ok text := by
  have hdecode := decode_eq_ok_iff.mpr h
  have htruncated : ¬IsTruncatedMark bytes := by
    intro htruncated
    have hself : withoutMark bytes = bytes := by rcases htruncated with rfl | rfl <;> rfl
    rw [hself] at hdecode
    exact htruncated.decode_ne_ok text hdecode
  rw [decodeFile_eq_decode htruncated, hdecode]

/-- A file that holds neither a text nor the beginning of a mark is at fault. -/
theorem exists_decodeFile_eq_error {bytes : List UInt8}
    (h : ∀ text, withoutMark bytes ≠ encode text) (htruncated : ¬IsTruncatedMark bytes) :
    ∃ fault, decodeFile bytes = .error fault := by
  rw [decodeFile_eq_decode htruncated]
  cases hdecode : decode (withoutMark bytes) with
  | ok text => exact absurd (decode_eq_ok_iff.mp hdecode) (h text)
  | error fault => exact ⟨fault, rfl⟩

end ScriptLexer.Utf8
