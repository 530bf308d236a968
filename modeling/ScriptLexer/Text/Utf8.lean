import ScriptLexer.Text.Quoted

set_option autoImplicit false

/-! # UTF-8

Program files are read as UTF-8. A character is a lead byte and up to three continuation
bytes; the lead byte says how many follow and, where a longer form of a shorter code, a
surrogate or a code beyond U+10FFFF could be spelled, limits the first of them. A sequence that
does not fit is a fault that tells where the sequence starts, how many of its bytes did fit,
and why the next does not. A byte order mark in front of a file is not part of its text. -/

namespace ScriptLexer.Utf8

/-- The bytes from `first` to `last`, both included. -/
structure ByteRange where
  /-- The lowest byte of the range. -/
  first : UInt8
  /-- The highest byte of the range. -/
  last : UInt8
deriving DecidableEq, Repr

/-- The byte lies in the range. -/
def ByteRange.covers (range : ByteRange) (byte : UInt8) : Bool :=
  decide (range.first ≤ byte) && decide (byte ≤ range.last)

/-- The bytes that may continue a character where the lead byte sets no tighter limit. -/
def continuation : ByteRange := ⟨0x80, 0xBF⟩

/-- Why a sequence of bytes is not a character. -/
inductive Reason where
  /-- No character begins with this byte. -/
  | invalidStart
  /-- The bytes end before the character does. -/
  | unexpectedEnd
  /-- The next byte does not continue the character. -/
  | invalidContinuation
deriving DecidableEq, Repr

/-- How a reason is put into words. -/
def Reason.message : Reason → Text
  | .invalidStart => "invalid start byte".toList
  | .unexpectedEnd => "unexpected end of data".toList
  | .invalidContinuation => "invalid continuation byte".toList

/-- A sequence of bytes that is not a character. -/
structure Fault where
  /-- The first byte of the sequence. -/
  lead : UInt8
  /-- How many bytes stand before the sequence. -/
  start : Nat
  /-- How many bytes fit, at least the first one. -/
  length : Nat
  /-- Why the sequence ends there. -/
  reason : Reason
deriving DecidableEq, Repr

/-- The report of a fault: the byte if only one is concerned, else the span of the bytes. -/
def Fault.message (fault : Fault) : Text :=
  let place :=
    if fault.length = 1 then
      "byte 0x".toList ++ Text.hexDigits 2 fault.lead.toNat ++ " in position ".toList ++
        Text.ofNat fault.start
    else
      "bytes in position ".toList ++ Text.ofNat fault.start ++ '-' ::
        Text.ofNat (fault.start + fault.length - 1)
  "'utf-8' codec can't decode ".toList ++ place ++ ": ".toList ++ fault.reason.message

/-! ## Decoding -/

/-- What a lead byte says: the ranges of the bytes that have to follow, in order, and its own
part of the code point. -/
def leading (byte : UInt8) : Option (List ByteRange × Nat) :=
  let n := byte.toNat
  if n < 0x80 then some ([], n)
  else if n < 0xC2 then none
  else if n < 0xE0 then some ([continuation], n - 0xC0)
  else if n = 0xE0 then some ([⟨0xA0, 0xBF⟩, continuation], 0)
  else if n = 0xED then some ([⟨0x80, 0x9F⟩, continuation], 0xD)
  else if n < 0xF0 then some ([continuation, continuation], n - 0xE0)
  else if n = 0xF0 then some ([⟨0x90, 0xBF⟩, continuation, continuation], 0)
  else if n < 0xF4 then some ([continuation, continuation, continuation], n - 0xF0)
  else if n = 0xF4 then some ([⟨0x80, 0x8F⟩, continuation, continuation], 4)
  else none

/-- Continues a code by one byte for each range: the whole code and the bytes after it, or how
many bytes fit and why the next does not. -/
def extend : List ByteRange → Nat → List UInt8 → Except (Nat × Reason) (Nat × List UInt8)
  | [], code, bytes => .ok (code, bytes)
  | _ :: _, _, [] => .error (0, .unexpectedEnd)
  | range :: ranges, code, byte :: bytes =>
    if range.covers byte then
      match extend ranges (code * 64 + byte.toNat % 64) bytes with
      | .ok result => .ok result
      | .error (fitting, reason) => .error (fitting + 1, reason)
    else .error (0, .invalidContinuation)

/-- Continuing a code takes one byte for each range. -/
theorem extend_length {ranges : List ByteRange} {code whole : Nat} {bytes rest : List UInt8}
    (h : extend ranges code bytes = .ok (whole, rest)) :
    rest.length + ranges.length = bytes.length := by
  induction ranges generalizing code bytes with
  | nil =>
      simp only [extend, Except.ok.injEq, Prod.mk.injEq] at h
      simp [h.2]
  | cons range ranges ih =>
      cases bytes with
      | nil => simp [extend] at h
      | cons byte bytes =>
          simp only [extend] at h
          split at h
          · split at h
            next result hext =>
              rw [Except.ok.inj h] at hext
              have := ih hext
              simp only [List.length_cons]
              omega
            next => simp at h
          · simp at h

/-- The text that the bytes spell, `start` bytes having gone before them. -/
def decodeFrom (start : Nat) (bytes : List UInt8) : Except Fault Text :=
  match bytes with
  | [] => .ok []
  | byte :: bytes =>
    match leading byte with
    | none => .error ⟨byte, start, 1, .invalidStart⟩
    | some (ranges, code) =>
      match h : extend ranges code bytes with
      | .error (fitting, reason) => .error ⟨byte, start, fitting + 1, reason⟩
      | .ok (whole, rest) =>
        (decodeFrom (start + 1 + ranges.length) rest).map (Char.ofNat whole :: ·)
termination_by bytes.length
decreasing_by
  have := extend_length h
  simp only [List.length_cons]
  omega

/-- The text that the bytes spell. -/
def decode (bytes : List UInt8) : Except Fault Text := decodeFrom 0 bytes

/-- The three bytes of the byte order mark. -/
def byteOrderMark : List UInt8 := [0xEF, 0xBB, 0xBF]

/-- The text of a file: one byte order mark in front is dropped, and a file that is no more
than the beginning of one is empty. -/
def decodeFile (bytes : List UInt8) : Except Fault Text :=
  match bytes with
  | [0xEF] => .ok []
  | [0xEF, 0xBB] => .ok []
  | 0xEF :: 0xBB :: 0xBF :: rest => decode rest
  | bytes => decode bytes

/-! ## Encoding -/

/-- The bytes of one character, in the shortest form. -/
def encodeChar (c : Char) : List UInt8 :=
  let n := c.toNat
  if n < 0x80 then [n.toUInt8]
  else if n < 0x800 then [(0xC0 + n / 64).toUInt8, (0x80 + n % 64).toUInt8]
  else if n < 0x10000 then
    [(0xE0 + n / 4096).toUInt8, (0x80 + n / 64 % 64).toUInt8, (0x80 + n % 64).toUInt8]
  else
    [(0xF0 + n / 262144).toUInt8, (0x80 + n / 4096 % 64).toUInt8, (0x80 + n / 64 % 64).toUInt8,
      (0x80 + n % 64).toUInt8]

/-- The bytes of a text. -/
def encode (text : Text) : List UInt8 := text.flatMap encodeChar

end ScriptLexer.Utf8
