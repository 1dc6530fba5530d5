import GeneratedContent.Text.Basic
import Mathlib.Data.List.Basic

/-!
# Backslashes in front of a character

A backslash takes away the meaning of the character behind it, and that character may be a backslash
itself. So a character is escaped just when it stands behind an odd number of backslashes.
-/

namespace GeneratedContent.Text

/-- Whether a text ends in an odd number of backslashes, so that what stands behind it is escaped. -/
def leavesEscape (s : Text) : Bool := (s.reverse.takeWhile (· == '\\')).length % 2 == 1

@[simp] theorem leavesEscape_nil : leavesEscape [] = false := rfl

/-- Behind a text that leaves no escape, the backslashes count from the start. -/
theorem leavesEscape_append {s : Text} (h : leavesEscape s = false) (t : Text) :
    leavesEscape (s ++ t) = leavesEscape t := by
  rw [leavesEscape, beq_eq_false_iff_ne] at h
  rw [leavesEscape, leavesEscape, List.reverse_append, List.takeWhile_append]
  split
  · -- there are only backslashes behind the text, so those at its end count with them
    rename_i hall
    have hparity : (t.reverse ++ s.reverse.takeWhile (· == '\\')).length % 2 =
        (t.reverse.takeWhile (· == '\\')).length % 2 := by
      rw [List.length_append]
      omega
    rw [hparity]
  · rfl

/-- An escape takes two characters, whatever the second one is. -/
theorem leavesEscape_escape (c : Char) (s : Text) :
    leavesEscape ('\\' :: c :: s) = leavesEscape s := by
  have hpair : leavesEscape ['\\', c] = false := by
    by_cases hc : c = '\\'
    · rw [hc]
      rfl
    · simp [leavesEscape, hc]
  exact leavesEscape_append hpair s

theorem leavesEscape_cons {c : Char} (hc : c ≠ '\\') (s : Text) :
    leavesEscape (c :: s) = leavesEscape s := by
  have hone : leavesEscape [c] = false := by simp [leavesEscape, hc]
  exact leavesEscape_append hone s

/-- A text that leaves an escape ends in a backslash that is not escaped itself. -/
theorem exists_of_leavesEscape {s : Text} (h : leavesEscape s = true) :
    ∃ t, s = t ++ ['\\'] ∧ leavesEscape t = false := by
  rcases List.eq_nil_or_concat' s with rfl | ⟨t, c, rfl⟩
  · exact absurd h (by simp)
  · by_cases hc : c = '\\'
    · subst hc
      refine ⟨t, rfl, ?_⟩
      rw [leavesEscape, List.reverse_append, List.reverse_singleton,
        List.singleton_append, List.takeWhile_cons_of_pos (by decide),
        List.length_cons, beq_iff_eq] at h
      rw [leavesEscape, beq_eq_false_iff_ne]
      omega
    · rw [leavesEscape, List.reverse_append, List.reverse_singleton,
        List.singleton_append, List.takeWhile_cons_of_neg (by simpa using hc)] at h
      exact absurd h (by decide)

end GeneratedContent.Text
