import Mathlib.Data.List.TakeWhile
import ScriptLexer.Proofs.Text.Digits
import ScriptLexer.Proofs.Text.Lines
import ScriptLexer.Proofs.Text.Printable

set_option autoImplicit false

/-! # Lines that show tokens

A token is shown on a line by printable characters, behind its position and a tab if positions are
asked for. So the parts of such a line can be told apart: the position in front of the tab and the
token behind it (`LocatedToken.behindTab_line`), and the kind and the payload of the token
(`Token.parts_of_text`). -/

namespace ScriptLexer

namespace Text

/-- What stands behind the last tab of a line, or all of it if there is none. -/
def behindTab (line : Text) : Text := (line.reverse.takeWhile (· != '\t')).reverse

theorem AllPrintable.tab_not_mem {text : Text} (h : text.AllPrintable) : '\t' ∉ text :=
  fun hmem => absurd (h '\t' hmem) (by decide)

theorem ne_tab_of_mem_reverse {line : Text} (h : '\t' ∉ line) :
    ∀ c ∈ line.reverse, (c != '\t') = true := by
  intro c hc
  rw [bne_iff_ne]
  rintro rfl
  exact h (List.mem_reverse.mp hc)

theorem behindTab_of_not_mem {line : Text} (h : '\t' ∉ line) : line.behindTab = line := by
  rw [behindTab, List.takeWhile_eq_self_iff.mpr (ne_tab_of_mem_reverse h), List.reverse_reverse]

theorem behindTab_append {line : Text} (h : '\t' ∉ line) (front : Text) :
    (front ++ '\t' :: line).behindTab = line := by
  rw [behindTab, List.reverse_append, List.reverse_cons, List.append_assoc,
    List.takeWhile_append_of_pos (ne_tab_of_mem_reverse h)]
  simp

end Text

/-! ## Kinds and payloads -/

namespace Token

variable {a b : Token}

/-- The kind of a token ends in front of the comma or the bracket. -/
theorem takeWhile_text (token : Token) :
    (token.text.drop 6).takeWhile (fun c => c != ',' && c != ')') = token.kindName := by
  have hkind : token.kindName.all (fun c => c != ',' && c != ')') = true := by
    cases token <;> rfl
  have hdrop : ∀ behind : Text,
      ("Token(".toList ++ token.kindName ++ behind).drop 6 = token.kindName ++ behind := by
    intro behind
    rw [List.append_assoc]
    rfl
  unfold text
  rw [List.append_assoc, hdrop, List.takeWhile_append_of_pos (List.all_eq_true.mp hkind)]
  cases token.payloadText? with
  | none => exact List.append_nil _
  | some shown => exact List.append_nil _

/-- The kind and the payload can be told from how a token is shown. -/
theorem parts_of_text (h : a.text = b.text) :
    a.kindName = b.kindName ∧ a.payloadText? = b.payloadText? := by
  have hkind : a.kindName = b.kindName := by
    rw [← a.takeWhile_text, ← b.takeWhile_text, h]
  refine ⟨hkind, ?_⟩
  unfold text at h
  rw [hkind] at h
  have hpayload := List.append_cancel_left (List.append_cancel_right h)
  cases ha : a.payloadText? with
  | none =>
    cases hb : b.payloadText? with
    | none => rfl
    | some shown => simp [ha, hb] at hpayload
  | some shown =>
    cases hb : b.payloadText? with
    | none => simp [ha, hb] at hpayload
    | some shown' =>
      rw [ha, hb] at hpayload
      rw [List.append_cancel_left hpayload]

theorem eq_lineBreak_of_text (h : a.text = Token.lineBreak.text) : a = .lineBreak := by
  have hpayload := (parts_of_text h).2
  cases a <;> simp [payloadText?] at hpayload ⊢

end Token

/-! ## Lines -/

namespace LocatedToken

theorem behindTab_line (located : LocatedToken) (positions : Bool) :
    (located.line positions).behindTab = located.token.text := by
  have htoken := located.token.allPrintable_text.tab_not_mem
  unfold line
  split
  · exact Text.behindTab_append htoken _
  · exact Text.behindTab_of_not_mem htoken

theorem isLine_line (located : LocatedToken) (positions : Bool) :
    Text.IsLine (located.line positions) := by
  constructor
  · intro hmem
    exact (mem_line hmem).elim (fun h => absurd h (by decide)) fun h => absurd h (by decide)
  · exact located.lineFeed_not_mem_line positions

/-- A line that shows a token is not empty, and does not start like a prompt. -/
theorem exists_line_eq_cons (located : LocatedToken) (positions : Bool) :
    ∃ c rest, located.line positions = c :: rest ∧ c ≠ '>' := by
  unfold line
  split
  · unfold Position.text
    cases hrow : Text.ofInt located.position.row with
    | nil => exact ⟨':', _, rfl, by decide⟩
    | cons c rest =>
      refine ⟨c, _, rfl, ?_⟩
      rintro rfl
      have hmem : '>' ∈ Text.ofInt located.position.row := by simp [hrow]
      exact Text.not_mem_ofInt (by decide) (by decide) _ hmem
  · exact ⟨'T', _, rfl, by decide⟩

/-- The lines that show tokens can be read off the output. -/
theorem lines_terminateLines (tokens : List LocatedToken) (positions : Bool) :
    Text.lines (Text.terminateLines (tokens.map (·.line positions))) =
      tokens.map (·.line positions) := by
  apply Text.lines_terminateLines
  intro line hline
  obtain ⟨located, -, rfl⟩ := List.mem_map.mp hline
  exact located.isLine_line positions

end LocatedToken

end ScriptLexer
