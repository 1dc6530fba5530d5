import GeneratedContent.Proofs.OrderedMap
import GeneratedContent.Proofs.Style.Appending
import GeneratedContent.Rule.Basic

/-!
# The body of a rule as a style

The body of a rule and the text of a style are both declaration lists, but each is taken in by
a loop of its own: a style drops the marks of importance from a value before it trims it, and the body
of a rule trims first, looks whether anything is left, and keeps the content apart. Blanks around a
value make no difference to what is left of it (`Declaration.normalizeValue_trim`), so both loops do
the same to every property but the content (`RuleBody.style_apply`), and the style of a body is the
style that its text describes, without the content (`RuleBody.style_read`).
-/

namespace GeneratedContent

namespace Declaration

/-- Blanks in front of a value do not count: no mark of importance begins with one. -/
theorem normalizeValue_trimLeft (v : Text) : normalizeValue (Text.trimLeft v) = normalizeValue v := by
  apply Text.trimLeft_induction (P := fun u => normalizeValue u = normalizeValue v) ?_ rfl
  intro c u hc hu
  have hnone : afterImportance? (c :: u) = none := by
    unfold afterImportance?
    split
    · rename_i he
      rw [(List.cons.inj he).1] at hc
      exact absurd hc (by decide)
    · rfl
  rw [normalizeValue, dropImportance_cons, hnone] at hu
  rw [normalizeValue, ← hu]
  exact (Text.trim_cons_blank _ hc).symm

/-- What is left of a value is the same whether it is trimmed before the marks of importance are
dropped or only afterwards. -/
theorem normalizeValue_trim (v : Text) : normalizeValue (Text.trim v) = normalizeValue v := by
  rcases Text.exists_trimRight_append (Text.trimLeft v) with ⟨w, hw, hblank⟩
  have hright : normalizeValue (Text.trimLeft v) = normalizeValue (Text.trim v) := by
    conv_lhs => rw [hw]
    exact normalizeValue_append_blank _ hblank
  rw [← hright, normalizeValue_trimLeft]

end Declaration

namespace RuleBody

/-- The key under which a style would have the content. -/
abbrev contentKey : Text := "content".toList

/-- One more declaration does to the style of a body what it does to a style without the content. -/
theorem style_apply (body : RuleBody) (s : Style) (d : Declaration)
    (h : body.style = s.erase contentKey) : (body.apply d).style = (d.apply s).erase contentKey := by
  unfold apply Declaration.apply
  simp only [Declaration.normalizeValue_trim]
  by_cases hblank : Text.trim d.value = []
  · -- nothing is left of a blank value, with or without marks of importance
    have hnil : Declaration.normalizeValue d.value = [] := by
      rw [← Declaration.normalizeValue_trim, hblank]
      decide +kernel
    simp only [hblank, hnil, if_true]
    exact h
  · by_cases hcontent : d.property = contentKey
    · -- the style may get a content here, which does not count
      simp only [hblank, hcontent, if_true, if_false]
      split
      · exact h
      · rw [OrderedMap.erase_insert_self]
        exact h
    · simp only [hblank, hcontent, if_false]
      split
      · exact h
      · rw [OrderedMap.erase_insert_of_ne _ _ hcontent]
        exact congrArg (OrderedMap.insert · _ _) h

/-- The two loops keep in step over a list of declarations. -/
theorem style_foldl_apply (ds : List Declaration) {body : RuleBody} {s : Style}
    (h : body.style = s.erase contentKey) :
    (ds.foldl apply body).style = (ds.foldl Declaration.apply s).erase contentKey := by
  induction ds generalizing body s with
  | nil => exact h
  | cons d ds ih => exact ih (style_apply body s d h)

/-- The style of a rule's body is the style that its text describes, without the content: the same
properties in the same order, with the same values. -/
theorem style_read (list : Text) : (read list).style = (Style.read list).erase contentKey :=
  style_foldl_apply (Declaration.read list) rfl

/-- A property comes twice, and what is left of the content differs between the two declarations. -/
example :
    let list := "Color:red;content:! important;color: ! IMPORTANT ;CONTENT:'a;b';top:0".toList
    (read list).style.entries =
      [("color".toList, "red".toList), ("top".toList, "0".toList)] := by
  decide +kernel

end RuleBody

end GeneratedContent
