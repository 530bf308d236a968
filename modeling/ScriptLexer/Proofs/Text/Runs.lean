import ScriptLexer.Text.Basic
import Mathlib.Data.List.TakeWhile

set_option autoImplicit false

/-! # Runs of one character

A text starts with a run of a given character, which may be empty, and goes on with something else
(`exists_run`). Where the run ends does not depend on how it is found: by counting, or by taking and
dropping as long as the character stands there. The other way round, a text is taken up to the first
place where a given character stands. -/

namespace ScriptLexer.Text

theorem exists_run (c : Char) (text : Text) :
    ∃ count rest, text = List.replicate count c ++ rest ∧ rest.head? ≠ some c := by
  induction text with
  | nil => exact ⟨0, [], rfl, by simp⟩
  | cons d text ih =>
    by_cases hd : d = c
    · obtain ⟨count, rest, rfl, hrest⟩ := ih
      exact ⟨count + 1, rest, by rw [hd]; rfl, hrest⟩
    · exact ⟨0, d :: text, rfl, by simpa using hd⟩

variable {c : Char} {rest : Text}

theorem beq_of_mem_run {count : Nat} : ∀ d ∈ List.replicate count c, (d == c) = true := by
  intro d hd
  rw [List.eq_of_mem_replicate hd, BEq.rfl]

theorem takeWhile_run (count : Nat) (hrest : rest.head? ≠ some c) :
    (List.replicate count c ++ rest).takeWhile (· == c) = List.replicate count c := by
  rw [List.takeWhile_append_of_pos beq_of_mem_run]
  cases rest with
  | nil => simp
  | cons d rest => simpa using hrest

theorem dropWhile_run (count : Nat) (hrest : rest.head? ≠ some c) :
    (List.replicate count c ++ rest).dropWhile (· == c) = rest := by
  rw [List.dropWhile_append_of_pos beq_of_mem_run]
  cases rest with
  | nil => rfl
  | cons d rest => simpa using hrest

/-! ## Up to a character -/

variable {text : Text}

theorem bne_of_not_mem (h : c ∉ text) : ∀ d ∈ text, (d != c) = true := by
  intro d hd
  rw [bne_iff_ne]
  rintro rfl
  exact h hd

theorem not_mem_takeWhile (c : Char) (text : Text) : c ∉ text.takeWhile (· != c) := by
  intro hmem
  have := List.mem_takeWhile_imp hmem
  simp at this

theorem takeWhile_of_not_mem (h : c ∉ text) : text.takeWhile (· != c) = text :=
  List.takeWhile_eq_self_iff.mpr (bne_of_not_mem h)

theorem takeWhile_append_of_not_mem (h : c ∉ text) (more : Text) :
    (text ++ more).takeWhile (· != c) = text ++ more.takeWhile (· != c) :=
  List.takeWhile_append_of_pos (bne_of_not_mem h)

/-- Behind the character nothing counts any more. -/
theorem takeWhile_append_of_mem (h : c ∈ text) (more : Text) :
    (text ++ more).takeWhile (· != c) = text.takeWhile (· != c) := by
  rw [List.takeWhile_append, if_neg]
  intro hlength
  have hall := (List.takeWhile_prefix (· != c)).eq_of_length hlength
  exact not_mem_takeWhile c text (hall.symm ▸ h)

end ScriptLexer.Text
