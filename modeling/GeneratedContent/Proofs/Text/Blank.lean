import GeneratedContent.Text.Blank
import Mathlib.Data.List.TakeWhile

/-!
# Trimmed texts

Trimming takes blanks off the two ends of a text and nothing else: a text that neither begins nor ends
with a blank stays as it is, and blanks behind a text make no difference. There are few blanks, so that
what holds of all of them can be found by trying them (`forall_blank`).
-/

namespace GeneratedContent

/-- The code points of the blanks. -/
def blankCodes : List Nat :=
  List.range' 0x09 5 ++ List.range' 0x1C 5 ++ [0x85, 0xA0, 0x1680] ++ List.range' 0x2000 11 ++
    [0x2028, 0x2029, 0x202F, 0x205F, 0x3000]

theorem toNat_mem_blankCodes {c : Char} (h : isBlank c = true) : c.toNat ∈ blankCodes := by
  simp only [isBlank, Bool.or_eq_true, Bool.and_eq_true, decide_eq_true_eq, beq_iff_eq] at h
  simp only [blankCodes, List.mem_append, List.mem_range'_1, List.mem_cons, List.not_mem_nil,
    or_false]
  omega

/-- What holds of the characters with these code points holds of all blanks. -/
theorem forall_blank {P : Char → Prop} (h : ∀ n ∈ blankCodes, P (Char.ofNat n)) {c : Char}
    (hc : isBlank c = true) : P c := by
  have hn := h c.toNat (toNat_mem_blankCodes hc)
  rwa [Char.ofNat_toNat] at hn

namespace Text

@[simp] theorem trim_nil : trim [] = [] := rfl

theorem trimLeft_of_head {s : Text} (h : ∀ c ∈ s.head?, isBlank c = false) : trimLeft s = s := by
  cases s with
  | nil => rfl
  | cons c s =>
    have hc : isBlank c = false := h c rfl
    exact List.dropWhile_cons_of_neg (by simp [hc])

theorem trimRight_of_getLast {s : Text} (h : ∀ c ∈ s.getLast?, isBlank c = false) :
    trimRight s = s := by
  have hreverse : s.reverse.dropWhile isBlank = s.reverse := by
    apply trimLeft_of_head
    intro c hc
    rw [List.head?_reverse] at hc
    exact h c hc
  rw [trimRight, hreverse, List.reverse_reverse]

/-- A text with no blank at its ends stays as it is. -/
theorem trim_eq_self {s : Text} (hfirst : ∀ c ∈ s.head?, isBlank c = false)
    (hlast : ∀ c ∈ s.getLast?, isBlank c = false) : trim s = s := by
  rw [trim, trimLeft_of_head hfirst, trimRight_of_getLast hlast]

/-- A text without blanks stays as it is. -/
theorem trim_of_forall {s : Text} (h : ∀ c ∈ s, isBlank c = false) : trim s = s := by
  apply trim_eq_self
  · intro c hc
    exact h c (List.mem_of_head? hc)
  · intro c hc
    exact h c (List.mem_of_getLast? hc)

@[simp] theorem trim_cons_blank {c : Char} (s : Text) (h : isBlank c = true) :
    trim (c :: s) = trim s := by
  rw [trim, trim, trimLeft, List.dropWhile_cons_of_pos h]
  rfl

/-- What stays true when one blank is taken off the front of a text stays true when all are. -/
theorem trimLeft_induction {P : Text → Prop} (hblank : ∀ c s, isBlank c = true → P (c :: s) → P s)
    {s : Text} (h : P s) : P (trimLeft s) := by
  induction s with
  | nil => exact h
  | cons c s ih =>
    by_cases hc : isBlank c = true
    · rw [trimLeft, List.dropWhile_cons_of_pos hc]
      exact ih (hblank c s hc h)
    · rw [trimLeft, List.dropWhile_cons_of_neg hc]
      exact h

/-- What one blank at the front makes no difference to, all of them make no difference to. -/
theorem apply_trimLeft {α : Sort*} {f : Text → α}
    (hblank : ∀ c s, isBlank c = true → f (c :: s) = f s) (s : Text) : f (trimLeft s) = f s :=
  trimLeft_induction (P := fun u => f u = f s)
    (fun c u hc hu => (hblank c u hc).symm.trans hu) rfl

/-- A text that begins with no blank begins with the same character when it is trimmed. -/
theorem head?_trim_cons {c : Char} (s : Text) (hc : isBlank c = false) :
    (trim (c :: s)).head? = some c := by
  have hleft : trimLeft (c :: s) = c :: s := trimLeft_of_head fun d hd => Option.some.inj hd ▸ hc
  rw [trim, hleft, trimRight, List.reverse_cons, List.dropWhile_append]
  split
  · simp [hc]
  · simp

theorem isBlank_of_head?_trimLeft {s : Text} {c : Char} (h : (trimLeft s).head? = some c) :
    isBlank c = false := by
  have hnot := List.head?_dropWhile_not isBlank s
  rw [show (s.dropWhile isBlank).head? = some c from h] at hnot
  exact hnot

theorem head?_trim (s : Text) : (trim s).head? = (trimLeft s).head? := by
  cases hleft : trimLeft s with
  | nil =>
    rw [trim, hleft]
    rfl
  | cons c t =>
    have hc : isBlank c = false := isBlank_of_head?_trimLeft (by rw [hleft, List.head?_cons])
    have hkept : trimLeft (c :: t) = c :: t := List.dropWhile_cons_of_neg (by simp [hc])
    have htrim := head?_trim_cons t hc
    rw [trim, hkept] at htrim
    rw [trim, hleft, htrim, List.head?_cons]

/-- There is nothing more to trim from a trimmed text. -/
@[simp] theorem trim_trim (s : Text) : trim (trim s) = trim s := by
  apply trim_eq_self
  · intro c hc
    rw [head?_trim] at hc
    exact isBlank_of_head?_trimLeft hc
  · intro c hc
    rw [trim, trimRight, List.getLast?_reverse] at hc
    exact isBlank_of_head?_trimLeft hc

/-- Where text that begins with no blank stands behind a text, only the blanks of the text are in
front. -/
theorem trimLeft_append {t : Text} (ht : ∀ c ∈ t.head?, isBlank c = false) (s : Text) :
    trimLeft (s ++ t) = trimLeft s ++ t := by
  rw [trimLeft, List.dropWhile_append]
  split
  · rename_i hblank
    rw [show trimLeft s = [] from List.isEmpty_iff.1 hblank, List.nil_append]
    exact trimLeft_of_head ht
  · rfl

@[simp] theorem trim_trimLeft (s : Text) : trim (trimLeft s) = trim s := by
  have hleft : trimLeft (trimLeft s) = trimLeft s :=
    trimLeft_of_head fun _ hc => isBlank_of_head?_trimLeft hc
  rw [trim, trim, hleft]

/-- Only blanks are trimmed off. -/
theorem mem_trim {c : Char} (hc : isBlank c = false) {s : Text} (h : c ∈ s) : c ∈ trim s := by
  have hleft : ∀ {u : Text}, c ∈ u → c ∈ u.dropWhile isBlank := by
    intro u hu
    rw [← List.takeWhile_append_dropWhile (p := isBlank) (l := u), List.mem_append] at hu
    rcases hu with hu | hu
    · rw [List.all_eq_true.1 List.all_takeWhile c hu] at hc
      exact absurd hc (by decide)
    · exact hu
  rw [trim, trimRight, List.mem_reverse]
  exact hleft (List.mem_reverse.2 (hleft h))

/-! ## Blanks behind a text -/

section Behind

variable {w : Text} (hw : ∀ c ∈ w, isBlank c = true)

include hw

theorem trimLeft_of_blank : trimLeft w = [] := List.dropWhile_eq_nil_iff.2 hw

theorem trimRight_append_blank (s : Text) : trimRight (s ++ w) = trimRight s := by
  rw [trimRight, trimRight, List.reverse_append, List.dropWhile_append_of_pos (by simpa using hw)]

/-- Blanks behind a text are trimmed away. -/
theorem trim_append_blank (s : Text) : trim (s ++ w) = trim s := by
  rw [trim, trim, trimLeft, trimLeft, List.dropWhile_append]
  split
  · -- there are only blanks
    rename_i h
    have hblank : w.dropWhile isBlank = [] := trimLeft_of_blank hw
    rw [List.isEmpty_iff.1 h, hblank]
  · exact trimRight_append_blank hw _

end Behind

/-- A text is what is left when it is trimmed on the right, with blanks behind it. -/
theorem exists_trimRight_append (s : Text) :
    ∃ w, s = trimRight s ++ w ∧ ∀ c ∈ w, isBlank c = true := by
  refine ⟨(s.reverse.takeWhile isBlank).reverse, ?_, ?_⟩
  · rw [trimRight, ← List.reverse_append, List.takeWhile_append_dropWhile, List.reverse_reverse]
  · intro c hc
    exact List.all_eq_true.1 List.all_takeWhile c (List.mem_reverse.1 hc)

end Text

end GeneratedContent
