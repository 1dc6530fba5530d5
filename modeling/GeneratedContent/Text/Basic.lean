/-!
# Texts

A text is the list of its Unicode code points, so that every offset and every length of this
library counts code points. This module holds the operations on texts that know nothing about
any format: taking a word off the front, and cutting at marks.
-/

namespace GeneratedContent

/-- A text, as the sequence of its code points. -/
abbrev Text := List Char

namespace Text

/-- What follows `word` in a text that begins with it. -/
def after? : (word : Text) → Text → Option Text
  | [], s => some s
  | _ :: _, [] => none
  | w :: word, c :: s => if w = c then after? word s else none

theorem after?_eq_some {word s rest : Text} : after? word s = some rest ↔ s = word ++ rest := by
  fun_induction after? word s with
  | case1 s => simp [eq_comm]
  | case2 => simp
  | case3 word c s ih => simp [ih]
  | case4 w word c s h => simp [Ne.symm h]

/-- Whether a condition holds of what a text goes on with at some place, its end included. -/
def anySuffix (s : Text) (p : Text → Bool) : Bool :=
  p s ||
    match s with
    | [] => false
    | _ :: s => anySuffix s p

/-- Puts `t` in front of the first piece. -/
def attach (t : Text) : List Text → List Text
  | [] => [t]
  | piece :: pieces => (t ++ piece) :: pieces

@[simp] theorem attach_ne_nil (t : Text) (pieces : List Text) : attach t pieces ≠ [] := by
  cases pieces <;> exact List.cons_ne_nil _ _

/-- The pieces of a text between the characters that satisfy `p`; there is always at least one. -/
def splitWhere (p : Char → Bool) : Text → List Text
  | [] => [[]]
  | c :: s => if p c then [] :: splitWhere p s else attach [c] (splitWhere p s)

/-- The pieces of a text between the occurrences of a mark. -/
def splitAt (mark : Char) : Text → List Text := splitWhere (· == mark)

/-- The part before the first occurrence of a mark, and what follows it. -/
def cutAt? (mark : Char) : Text → Option (Text × Text)
  | [] => none
  | c :: s => if c = mark then some ([], s) else (cutAt? mark s).map fun r => (c :: r.1, r.2)

theorem cutAt?_eq {mark : Char} {s before rest : Text} (h : cutAt? mark s = some (before, rest)) :
    s = before ++ mark :: rest := by
  induction s generalizing before with
  | nil => simp [cutAt?] at h
  | cons c s ih =>
    unfold cutAt? at h
    split at h
    · obtain ⟨rfl, rfl⟩ : [] = before ∧ s = rest := by simpa using h
      simp_all
    · obtain ⟨r, hr, hb⟩ := Option.map_eq_some_iff.1 h
      obtain ⟨rfl, rfl⟩ : c :: r.1 = before ∧ r.2 = rest := by simpa using hb
      simp [ih hr]

theorem cutAt?_of_notMem {mark : Char} {s : Text} (h : mark ∉ s) : cutAt? mark s = none := by
  induction s with
  | nil => rfl
  | cons c s ih =>
    rw [List.mem_cons, not_or] at h
    rw [cutAt?, if_neg (Ne.symm h.1), ih h.2, Option.map_none]

theorem cutAt?_of_eq {mark : Char} {before : Text} (h : mark ∉ before) (rest : Text) :
    cutAt? mark (before ++ mark :: rest) = some (before, rest) := by
  induction before with
  | nil => rw [List.nil_append, cutAt?, if_pos rfl]
  | cons c s ih =>
    rw [List.mem_cons, not_or] at h
    rw [List.cons_append, cutAt?, if_neg (Ne.symm h.1), ih h.2, Option.map_some]

/-- A text without the mark behind another comes into what follows the mark. -/
theorem cutAt?_append {mark : Char} (s : Text) {t : Text} (ht : mark ∉ t) :
    cutAt? mark (s ++ t) = (cutAt? mark s).map fun r => (r.1, r.2 ++ t) := by
  induction s with
  | nil => rw [List.nil_append, cutAt?_of_notMem ht, cutAt?, Option.map_none]
  | cons c s ih =>
    rw [List.cons_append, cutAt?, cutAt?]
    split
    · rfl
    · rw [ih, Option.map_map, Option.map_map]
      rfl

end Text

end GeneratedContent
