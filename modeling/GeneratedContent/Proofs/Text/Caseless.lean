import GeneratedContent.Text.Caseless
import Mathlib.Data.List.Forall2

/-!
# Words in letters of any case

A word is taken off the front of a text letter by letter (`afterCaseless?_eq_some`). So it can be read
from its end as well, and what stands behind a text does not matter for the word unless it begins with one of
its letters. What is taken is the word itself in lower case if none of its letters has another form
(`lower_eq_of_sameLetter`).
-/

namespace GeneratedContent

@[simp] theorem sameLetter_self (c : Char) : sameLetter c c = true := by simp [sameLetter]

/-- A letter without other forms is the same as the characters that it is the lower case of. -/
theorem sameLetter_iff {l : Char} (hlower : lowerChar l = l) (hforms : ∀ forms ∈ letterForms, l ∉ forms)
    (c : Char) : sameLetter l c = true ↔ lowerChar c = l := by
  have hnone : (letterForms.any fun forms => forms.contains l && forms.contains (lowerChar c)) = false := by
    rw [List.any_eq_false]
    intro forms hmem
    simp [hforms forms hmem]
  rw [sameLetter]
  simp only [hlower, hnone, Bool.or_false, beq_iff_eq]
  exact eq_comm

/-- Whether a letter is in lower case and has no other form there. -/
def IsPlainLetter (l : Char) : Prop := lowerChar l = l ∧ ∀ forms ∈ letterForms, l ∉ forms

namespace Text

/-- What is taken off the front of a text has the letters of the word. -/
theorem afterCaseless?_eq_some {word s rest : Text} :
    afterCaseless? word s = some rest ↔
      ∃ taken, List.Forall₂ (fun l c => sameLetter l c = true) word taken ∧ s = taken ++ rest := by
  constructor
  · intro h
    fun_induction afterCaseless? word s with
    | case1 s => exact ⟨[], .nil, Option.some.inj h⟩
    | case2 => exact absurd h (by simp)
    | case3 l word c s hs ih =>
      rcases ih h with ⟨taken, htaken, rfl⟩
      exact ⟨c :: taken, .cons hs htaken, rfl⟩
    | case4 => exact absurd h (by simp)
  · rintro ⟨taken, htaken, rfl⟩
    induction htaken with
    | nil => rfl
    | cons hs htaken ih =>
      rw [List.cons_append, afterCaseless?, if_pos hs]
      exact ih

@[simp] theorem afterCaseless?_append (word rest : Text) :
    afterCaseless? word (word ++ rest) = some rest :=
  afterCaseless?_eq_some.2 ⟨word, List.forall₂_same.2 fun c _ => sameLetter_self c, rfl⟩

/-- What is taken off the front of a text is made of letters of the word. -/
theorem exists_of_afterCaseless? {word s rest : Text} (h : afterCaseless? word s = some rest) :
    ∃ taken, s = taken ++ rest ∧ ∀ c ∈ taken, word.any (sameLetter · c) = true := by
  rcases afterCaseless?_eq_some.1 h with ⟨taken, htaken, hs⟩
  refine ⟨taken, hs, fun c hc => ?_⟩
  rcases List.mem_iff_getElem.1 hc with ⟨i, hi, rfl⟩
  have hword : i < word.length := htaken.length_eq ▸ hi
  exact List.any_eq_true.2 ⟨word[i], List.getElem_mem hword, htaken.get hword hi⟩

/-- No word goes on into what begins with none of its letters. -/
theorem afterCaseless?_append_of_head {word t : Text}
    (ht : ∀ c ∈ t.head?, ∀ l ∈ word, sameLetter l c = false) (s : Text) :
    afterCaseless? word (s ++ t) = (afterCaseless? word s).map (· ++ t) := by
  fun_induction afterCaseless? word s with
  | case1 s => rfl
  | case2 l word =>
    cases t with
    | nil => rfl
    | cons c t =>
      have hletter := ht c rfl l List.mem_cons_self
      simp [afterCaseless?, hletter]
  | case3 l word c s hs ih =>
    rw [List.cons_append, afterCaseless?, if_pos hs]
    exact ih fun d hd m hm => ht d hd m (List.mem_cons_of_mem _ hm)
  | case4 l word c s hs => rw [List.cons_append, afterCaseless?, if_neg hs, Option.map_none]

/-- A word is read from its end as it is from its start. -/
theorem afterCaseless?_reverse {word s : Text} (h : sameCaseless word s = true) (rest : Text) :
    afterCaseless? word.reverse (s.reverse ++ rest) = some rest := by
  rw [sameCaseless, beq_iff_eq, afterCaseless?_eq_some] at h
  rcases h with ⟨taken, htaken, rfl⟩
  rw [List.append_nil]
  exact afterCaseless?_eq_some.2 ⟨taken.reverse, List.forall₂_reverse_iff.2 htaken, rfl⟩

/-- A word of plain letters, in letters of any case, is the word in lower case. -/
theorem lower_eq_of_sameLetter {word s : Text} (hletters : ∀ l ∈ word, IsPlainLetter l)
    (h : List.Forall₂ (fun l c => sameLetter l c = true) word s) : lower s = word := by
  unfold lower
  -- what stands before does not matter for such letters
  generalize ([] : Text) = before
  induction h generalizing before with
  | nil => rfl
  | @cons l c word s hc hs ih =>
    rw [List.forall_mem_cons] at hletters
    rcases hletters.1 with ⟨hlower, hforms⟩
    have hchar : lowerChar c = l := (sameLetter_iff hlower hforms c).1 hc
    -- the two characters whose lower case depends on more than themselves have other forms
    have hsigma : c ≠ 'Σ' := by
      rintro rfl
      exact hforms ['ς', 'σ'] (by decide) (by rw [← hchar]; decide)
    have hdotted : c ≠ 'İ' := by
      rintro rfl
      exact hforms ['i', 'ı'] (by decide) (by rw [← hchar]; decide)
    rw [lowerAfter, ih hletters.2]
    simp [hsigma, hdotted, hchar]

end Text

end GeneratedContent
