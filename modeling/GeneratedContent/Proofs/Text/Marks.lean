import GeneratedContent.Proofs.Text.Letter
import GeneratedContent.Text.Lowercase
import Mathlib.Data.List.Count

/-!
# Punctuation that stays

What declarations are told apart by are three marks: the semicolon between them, the colon in each of
them, and the slash that comments begin with. Lower case makes no such mark of another character, so
no more of them come up when a text is put into lower case (`marks_lower_le`).
-/

namespace GeneratedContent

/-- Whether a character is one of the marks that declarations are told apart by. -/
def isMark (c : Char) : Bool := c == ';' || c == ':' || c == '/'

/-- What the table puts in place of characters lies behind all marks. -/
theorem lowerCase_bound : ∀ r ∈ Text.Tables.lowerCase, (0x40 : Int) ≤ r.1 + r.2.2.2 := by
  decide +kernel

theorem toNat_of_isMark {c : Char} (h : isMark c = true) : 0 < c.toNat ∧ c.toNat < 0x40 := by
  simp only [isMark, Bool.or_eq_true, beq_iff_eq] at h
  rcases h with (rfl | rfl) | rfl <;> decide

theorem not_isMark_ofNat {n : Nat} (h : 0x40 ≤ n) : isMark (Char.ofNat n) = false := by
  rw [Bool.eq_false_iff]
  intro hmark
  have hbound := toNat_of_isMark hmark
  -- a number that is no character's stands for the character zero
  have hnumber : (Char.ofNat n).toNat = n ∨ (Char.ofNat n).toNat = 0 := by
    by_cases hvalid : n.isValidChar
    · exact Or.inl (congrArg Char.toNat (dif_pos hvalid))
    · exact Or.inr (congrArg Char.toNat (dif_neg hvalid))
  omega

/-- A mark is the lower case of itself alone. -/
theorem isMark_of_lowerChar {c : Char} (h : isMark (lowerChar c) = true) : isMark c = true := by
  unfold lowerChar at h
  simp only at h
  split at h
  · rename_i hascii
    exact forall_ascii (P := fun c => isMark c.toLower = true → isMark c = true) (by decide) hascii h
  · split at h
    · exact absurd h (by decide)
    · split at h
      · exact absurd h (by decide)
      · split at h
        · rename_i r hr
          have hbound := lowerCase_bound r (List.mem_of_find?_eq_some hr)
          have hrow := List.find?_some hr
          simp only [Bool.and_eq_true, decide_eq_true_eq] at hrow
          rw [not_isMark_ofNat (by omega)] at h
          exact absurd h (by decide)
        · exact h

namespace Text

/-- How many marks there are in a text. -/
def marks (s : Text) : Nat := s.countP isMark

@[simp] theorem marks_nil : marks [] = 0 := rfl

@[simp] theorem marks_append (s t : Text) : marks (s ++ t) = marks s + marks t :=
  List.countP_append

theorem marks_cons (c : Char) (s : Text) :
    marks (c :: s) = marks s + if isMark c = true then 1 else 0 :=
  List.countP_cons

theorem marks_le_of_sublist {s t : Text} (h : s.Sublist t) : marks s ≤ marks t := h.countP_le

theorem marks_lowerAfter_le (before s : Text) : marks (lowerAfter before s) ≤ marks s := by
  induction s generalizing before with
  | nil => exact Nat.le_refl _
  | cons c s ih =>
    rw [lowerAfter, marks_append, marks_cons]
    have himage : marks (if c = 'Σ' then [if meetsCased before && !meetsCased s then 'ς' else 'σ']
        else if c = 'İ' then ['i', '\u0307'] else [lowerChar c]) ≤
          if isMark c = true then 1 else 0 := by
      split
      · split <;> exact Nat.zero_le _
      · split
        · exact Nat.zero_le _
        · rw [marks_cons, marks_nil, Nat.zero_add]
          by_cases hc : isMark (lowerChar c) = true
          · exact Nat.le_of_eq ((if_pos hc).trans (if_pos (isMark_of_lowerChar hc)).symm)
          · exact Nat.le_trans (Nat.le_of_eq (if_neg hc)) (Nat.zero_le _)
    have hrest := ih (c :: before)
    omega

/-- Lower case adds no marks. -/
theorem marks_lower_le (s : Text) : marks (lower s) ≤ marks s := marks_lowerAfter_le [] s

end Text

end GeneratedContent
