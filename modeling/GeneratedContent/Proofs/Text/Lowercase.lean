import GeneratedContent.Text.Lowercase

/-!
# Texts in lower case

Lower-case letters, and characters without case, stay as they are in lower case.
-/

namespace GeneratedContent.Text

/-- Whether a character of ASCII stays as it is in lower case. -/
def isLoweredAscii (c : Char) : Bool := c.toNat < 0x80 && c.toLower == c

theorem lowerAfter_cons {c : Char} (h : isLoweredAscii c = true) (before s : Text) :
    lowerAfter before (c :: s) = c :: lowerAfter (c :: before) s := by
  rw [isLoweredAscii, Bool.and_eq_true, decide_eq_true_eq, beq_iff_eq] at h
  rcases h with ⟨hascii, hlower⟩
  have hsigma : c ≠ 'Σ' := by
    rintro rfl
    exact absurd hascii (by decide)
  have hdotted : c ≠ 'İ' := by
    rintro rfl
    exact absurd hascii (by decide)
  have hchar : lowerChar c = c := by
    unfold lowerChar
    simp only [if_pos hascii, hlower]
  rw [lowerAfter]
  simp only [if_neg hsigma, if_neg hdotted, hchar, List.singleton_append]

theorem lower_of_forall {s : Text} (h : ∀ c ∈ s, isLoweredAscii c = true) : lower s = s := by
  unfold lower
  -- what stands before does not matter
  generalize ([] : Text) = before
  induction s generalizing before with
  | nil => rfl
  | cons c s ih =>
    rw [lowerAfter_cons (h c List.mem_cons_self), ih fun d hd => h d (List.mem_cons_of_mem c hd)]

/-- A character that stays as it is is still there in lower case. -/
theorem mem_lower {c : Char} (hc : isLoweredAscii c = true) {s : Text} (h : c ∈ s) :
    c ∈ lower s := by
  unfold lower
  generalize ([] : Text) = before
  induction s generalizing before with
  | nil => exact absurd h List.not_mem_nil
  | cons d s ih =>
    rw [List.mem_cons] at h
    rcases h with rfl | h
    · rw [lowerAfter_cons hc]
      exact List.mem_cons_self
    · rw [lowerAfter]
      exact List.mem_append_right _ (ih h _)

end GeneratedContent.Text
