import GeneratedContent.Content.Basic
import GeneratedContent.Counter.Numeral

/-!
# Content as text

A content value becomes text in two steps. Resolving looks up the attributes of the element and
leaves a placeholder for each counter; filling puts in the value of the counter, which depends on
where the element stands among the others. A placeholder stands between two characters of private
use.
-/

namespace GeneratedContent.Content

/-- The character before a placeholder. -/
def placeholderOpen : Char := '\uE000'

/-- The character behind a placeholder. -/
def placeholderClose : Char := '\uE001'

/-- What a placeholder says before its numbering style. -/
def placeholderLabel : Text := "counter:".toList

/-- The placeholder for a counter value in a numbering style. -/
def placeholder (style : Text) : Text :=
  placeholderOpen :: placeholderLabel ++ style ++ [placeholderClose]

mutual

/-- The text of a content value, with placeholders for counters. -/
def resolve (lookUp : Text → Option Text) : Content → Text
  | .literal text => text
  | .ofAttribute name => (lookUp name).getD []
  | .counter _ style => placeholder style
  | .empty => []
  | .sequence parts => resolveAll lookUp parts

/-- The texts of content values, one after the other. -/
def resolveAll (lookUp : Text → Option Text) : List Content → Text
  | [] => []
  | part :: parts => resolve lookUp part ++ resolveAll lookUp parts

end

/-- Whether a character can be part of the name of a numbering style. -/
def isStyleChar (c : Char) : Bool := c.isLower || c == '-'

/-- The numbering style of the placeholder whose inside a text begins with, and what follows the
placeholder. -/
def cutPlaceholder? (s : Text) : Option (Text × Text) :=
  match Text.after? placeholderLabel s with
  | none => none
  | some s =>
    match s.dropWhile isStyleChar with
    | [] => none
    | c :: rest =>
      let style := s.takeWhile isStyleChar
      if style ≠ [] ∧ c = placeholderClose then some (style, rest) else none

theorem length_cutPlaceholder? {s style rest : Text} (h : cutPlaceholder? s = some (style, rest)) :
    rest.length < s.length := by
  unfold cutPlaceholder? at h
  split at h
  · simp at h
  · rename_i t ht
    have h₁ := congrArg List.length (Text.after?_eq_some.1 ht)
    have h₂ := (List.dropWhile_sublist isStyleChar (l := t)).length_le
    split at h
    · simp at h
    · rename_i c r hr
      rw [hr, List.length_cons] at h₂
      simp only at h
      split at h
      · obtain ⟨-, rfl⟩ : t.takeWhile isStyleChar = style ∧ r = rest := by simpa using h
        rw [List.length_append] at h₁
        omega
      · simp at h

/-- A text with its placeholders replaced by a counter value. -/
def fill (value : Int) : Text → Text
  | [] => []
  | c :: s =>
    if c = placeholderOpen then
      match _h : cutPlaceholder? s with
      | some (style, rest) => Counter.format value style ++ fill value rest
      | none => c :: fill value s
    else c :: fill value s
termination_by s => s.length
decreasing_by
  · have := length_cutPlaceholder? _h
    simp only [List.length_cons]
    omega
  all_goals simp

end GeneratedContent.Content
