import ScriptLexer.Proofs.Literal.Body

set_option autoImplicit false

/-! # Escape sequences in pieces

A literal is read slice by slice, and the escape sequences of each slice are resolved on their own.
The file says for which pieces of a text this makes no difference (`unescape_pieces`). Resolving is
seen as a reader that goes over the text once and keeps in mind whether a backslash is pending
(`resolveFrom`). What a piece adds depends on the pieces before it only through this bit, which is
the parity of the backslashes at their end (`unescape_append_eq`). A cut behind a pending backslash
leaves it to the first piece, where it stands for itself. In front of the second piece it does so
too if that starts with an even run of backslashes without an apostrophe behind it, or with an odd
run and an apostrophe (`unescape_backslash_iff`). -/

namespace ScriptLexer.Literal

/-! ## One character after the other -/

/-- What one more character adds. -/
def resolveChar (pending : Bool) (c : Char) : Text :=
  if pending then if isProtected c then [c] else [Text.backslash, c]
  else if c = Text.backslash then [] else [c]

/-- What a backslash adds that is pending at the end. -/
def leftOver (pending : Bool) : Text := if pending then [Text.backslash] else []

/-- The text with its escape sequences resolved, behind a backslash if one is pending. -/
def resolveFrom (pending : Bool) : Text → Text
  | [] => leftOver pending
  | c :: rest => resolveChar pending c ++ resolveFrom (pendingAfter pending c) rest

/-- What a piece of a text adds, without the backslash that may be pending behind it. -/
def resolvePiece (pending : Bool) : Text → Text
  | [] => []
  | c :: rest => resolveChar pending c ++ resolvePiece (pendingAfter pending c) rest

/-- Escape sequences can be resolved one character after the other. -/
theorem resolveFrom_eq (text : Text) :
    resolveFrom false text = unescape text ∧
      resolveFrom true text = unescape (Text.backslash :: text) := by
  induction text with
  | nil => exact ⟨rfl, rfl⟩
  | cons c rest ih =>
    refine ⟨?_, ?_⟩
    · by_cases hc : c = Text.backslash
      · rw [hc]
        exact ih.2
      · have hpending : pendingAfter false c = false := by simp [pendingAfter, hc]
        rw [unescape_cons hc, resolveFrom, hpending, ih.1, resolveChar, if_neg (by simp), if_neg hc,
          List.singleton_append]
    · have hpending : pendingAfter true c = false := by simp [pendingAfter]
      rw [unescape_escape, resolveFrom, hpending, ih.1, resolveChar, if_pos rfl]
      split <;> rfl

/-- The run over a piece: behind it, only the bit counts. -/
theorem resolveFrom_append (pending : Bool) (a b : Text) :
    resolveFrom pending (a ++ b) =
      resolvePiece pending a ++ resolveFrom (a.foldl pendingAfter pending) b := by
  induction a generalizing pending with
  | nil => rfl
  | cons c a ih =>
    rw [List.cons_append, resolveFrom, ih, resolvePiece, List.foldl_cons, List.append_assoc]

/-- A backslash is pending behind a piece if an odd run of them stands at its end. -/
theorem unescape_append_eq (a b : Text) :
    unescape (a ++ b) = resolvePiece false a ++ resolveFrom (isEscaped a) b := by
  rw [← (resolveFrom_eq _).1, resolveFrom_append, isEscaped_eq_foldl]

/-! ## Backslashes that are pending -/

/-- The text starts with an odd run of backslashes in front of an apostrophe, or with an even one in
front of something else. -/
def KeepsBackslash (text : Text) : Prop :=
  (text.takeWhile (· == Text.backslash)).length % 2 = 1 ↔
    (text.dropWhile (· == Text.backslash)).head? = some Text.apostrophe

theorem keepsBackslash_nil : KeepsBackslash [] := by simp [KeepsBackslash]

theorem keepsBackslash_backslash (text : Text) :
    KeepsBackslash (Text.backslash :: text) ↔ ¬KeepsBackslash text := by
  have hparity : ((text.takeWhile (· == Text.backslash)).length + 1) % 2 = 1 ↔
      ¬(text.takeWhile (· == Text.backslash)).length % 2 = 1 := by omega
  rw [KeepsBackslash, KeepsBackslash, List.takeWhile_cons_of_pos (by decide),
    List.dropWhile_cons_of_pos (by decide), List.length_cons, hparity, not_iff]

theorem keepsBackslash_cons {c : Char} (hc : c ≠ Text.backslash) (text : Text) :
    KeepsBackslash (c :: text) ↔ c ≠ Text.apostrophe := by
  simp [KeepsBackslash, hc]

/-- A backslash in front of a text stands for itself there, or for nothing. -/
theorem unescape_backslash_iff (text : Text) :
    (unescape (Text.backslash :: text) = Text.backslash :: unescape text ↔
      KeepsBackslash text) ∧
    (unescape (Text.backslash :: text) = unescape text ↔ ¬KeepsBackslash text) := by
  induction text with
  | nil => simp [unescape, keepsBackslash_nil]
  | cons c rest ih =>
    by_cases hbackslash : c = Text.backslash
    · -- the two backslashes stand for one, so the two questions change places for the rest
      have hpair : unescape (Text.backslash :: Text.backslash :: rest) =
          Text.backslash :: unescape rest := rfl
      rw [hbackslash, keepsBackslash_backslash, hpair, not_not, ← ih.2, ← ih.1,
        List.cons_inj_right]
      exact ⟨eq_comm, eq_comm⟩
    · rw [keepsBackslash_cons hbackslash, not_not, unescape_escape, unescape_cons hbackslash]
      by_cases hquote : c = Text.apostrophe
      · simp [hquote, isProtected]
      · simp [hquote, hbackslash, isProtected]

/-- Where two pieces can be resolved on their own. -/
theorem unescape_append_iff (a b : Text) :
    unescape (a ++ b) = unescape a ++ unescape b ↔ isEscaped a = false ∨ KeepsBackslash b := by
  have hfirst := unescape_append_eq a []
  rw [List.append_nil] at hfirst
  rw [unescape_append_eq, hfirst, List.append_assoc, List.append_cancel_left_eq, resolveFrom]
  cases isEscaped a with
  | false => simp [leftOver, (resolveFrom_eq b).1]
  | true =>
    rw [(resolveFrom_eq b).2, ← (unescape_backslash_iff b).1]
    simp [leftOver]

/-! ## Escaping everything -/

/-- The text with a backslash in front of every backslash and of every apostrophe. -/
def escapeAll (text : Text) : Text :=
  text.flatMap fun c => if isProtected c then [Text.backslash, c] else [c]

theorem unescape_escapeAll (text : Text) : unescape (escapeAll text) = text := by
  induction text with
  | nil => rfl
  | cons c text ih =>
    rw [escapeAll, List.flatMap_cons, ← escapeAll]
    cases hc : isProtected c with
    | true =>
      rw [if_pos rfl, List.cons_append, List.singleton_append, unescape_escape, if_pos hc, ih]
    | false =>
      have hne : c ≠ Text.backslash := by
        rintro rfl
        exact absurd hc (by decide)
      rw [if_neg (by simp), List.singleton_append, unescape_cons hne, ih]

/-- **Resolving in pieces.** Resolving escape sequences is reading a text once with a pending
backslash in mind. Two pieces can be resolved on their own if no odd run of backslashes stands at the
end of the first, if the second is empty, or if it starts with a character that needs no backslash;
in all, exactly if no backslash is pending between them or the second keeps it. And resolving undoes
the escaping of every backslash and every apostrophe. -/
theorem unescape_pieces :
    (∀ text : Text, unescape text = resolveFrom false text) ∧
    (∀ a b : Text, (isEscaped a = false ∨ b = [] ∨
        ∃ c rest, b = c :: rest ∧ c ≠ Text.backslash ∧ c ≠ Text.apostrophe) →
      unescape (a ++ b) = unescape a ++ unescape b) ∧
    (∀ a b : Text, unescape (a ++ b) = unescape a ++ unescape b ↔
      isEscaped a = false ∨ KeepsBackslash b) ∧
    ∀ text : Text, unescape (escapeAll text) = text := by
  refine ⟨fun text => (resolveFrom_eq text).1.symm, fun a b h => ?_, unescape_append_iff,
    unescape_escapeAll⟩
  rw [unescape_append_iff]
  rcases h with hescaped | rfl | ⟨c, rest, rfl, hbackslash, hquote⟩
  · exact Or.inl hescaped
  · exact Or.inr keepsBackslash_nil
  · exact Or.inr ((keepsBackslash_cons hbackslash rest).mpr hquote)

end ScriptLexer.Literal
