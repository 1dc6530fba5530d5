import GeneratedContent.Html.Printer
import GeneratedContent.Proofs.OrderedMap
import GeneratedContent.Text.Letter
import Mathlib.Data.List.Nodup

/-!
# Attributes in the order of their names

Attributes are written in the order of their names, so that a page that is read again may have them
in another order than before. Tidying puts the attributes of an element into that order
(`Attributes.tidied`). Nothing that is asked of attributes depends on their order: not the value of
one, whatever the case of letters in its name, and not what is written.
-/

namespace GeneratedContent.Html

/-! ## Sorting by name -/

theorem putByName_comm {e f : Text × Text} (h : e.1 ≠ f.1) (es : List (Text × Text)) :
    putByName e (putByName f es) = putByName f (putByName e es) := by
  -- of two different names one comes before the other
  have htotal : e.1 < f.1 ∨ f.1 < e.1 := by
    by_cases hef : e.1 < f.1
    · exact Or.inl hef
    · by_cases hfe : f.1 < e.1
      · exact Or.inr hfe
      · exact absurd (List.le_antisymm (List.not_lt.1 hfe) (List.not_lt.1 hef)) h
  induction es with
  | nil =>
    rcases htotal with hlt | hlt
    · have hnot : ¬ f.1 < e.1 := List.lt_asymm hlt
      simp [putByName, hlt, hnot]
    · have hnot : ¬ e.1 < f.1 := List.lt_asymm hlt
      simp [putByName, hlt, hnot]
  | cons d es ih =>
    by_cases he : e.1 < d.1 <;> by_cases hf : f.1 < d.1
    · rcases htotal with hlt | hlt
      · have hnot : ¬ f.1 < e.1 := List.lt_asymm hlt
        simp [putByName, he, hf, hlt, hnot]
      · have hnot : ¬ e.1 < f.1 := List.lt_asymm hlt
        simp [putByName, he, hf, hlt, hnot]
    · have hnot : ¬ f.1 < e.1 := fun hfe => hf (List.lt_trans hfe he)
      simp [putByName, he, hf, hnot]
    · have hnot : ¬ e.1 < f.1 := fun hef => he (List.lt_trans hef hf)
      simp [putByName, he, hf, hnot]
    · simp [putByName, he, hf, ih]

theorem perm_putByName (e : Text × Text) (es : List (Text × Text)) :
    (putByName e es).Perm (e :: es) := by
  induction es with
  | nil => exact List.Perm.refl _
  | cons d es ih =>
    unfold putByName
    split
    · exact List.Perm.refl _
    · exact (ih.cons d).trans (List.Perm.swap e d es)

theorem perm_sortedByName (es : List (Text × Text)) : (sortedByName es).Perm es := by
  induction es with
  | nil => exact List.Perm.refl _
  | cons e es ih => exact (perm_putByName e _).trans (ih.cons e)

/-- Sorting does not depend on the order before, where every name comes once. -/
theorem sortedByName_of_perm {es fs : List (Text × Text)} (h : es.Perm fs)
    (hnodup : (es.map Prod.fst).Nodup) : sortedByName es = sortedByName fs := by
  apply h.foldr_eq'
  intro e he f hf ds
  by_cases hef : e.1 = f.1
  · rw [List.inj_on_of_nodup_map hnodup he hf hef]
  · exact putByName_comm (Ne.symm hef) ds

/-! ## Tidied attributes -/

/-- Attributes sorted by name. -/
def Attributes.sorted (a : Attributes) : Attributes where
  entries := sortedByName a.entries
  nodup := ((perm_sortedByName a.entries).map Prod.fst).nodup_iff.2 a.nodup

/-- Whether the names of attributes are in lower case, as they are in a page that is read. -/
def Attributes.Lowered (a : Attributes) : Prop :=
  ∀ name ∈ a.entries.map Prod.fst, Text.lowerAscii name = name

instance (a : Attributes) : Decidable a.Lowered := inferInstanceAs (Decidable (∀ _ ∈ _, _))

/-- Attributes sorted by name, if their names are in lower case. -/
def Attributes.tidied (a : Attributes) : Attributes := if a.Lowered then a.sorted else a

namespace Attributes

theorem perm_sorted (a : Attributes) : a.sorted.entries.Perm a.entries :=
  perm_sortedByName a.entries

theorem perm_tidied (a : Attributes) : a.tidied.entries.Perm a.entries := by
  unfold tidied
  split
  · exact a.perm_sorted
  · exact List.Perm.refl _

theorem lowered_iff_of_perm {a b : Attributes} (h : a.entries.Perm b.entries) :
    a.Lowered ↔ b.Lowered := by
  have hmem : ∀ name, name ∈ a.entries.map Prod.fst ↔ name ∈ b.entries.map Prod.fst :=
    fun name => (h.map Prod.fst).mem_iff
  constructor
  · intro ha name hname
    exact ha name ((hmem name).2 hname)
  · intro hb name hname
    exact hb name ((hmem name).1 hname)

theorem sorted_of_perm {a b : Attributes} (h : a.entries.Perm b.entries) : a.sorted = b.sorted :=
  OrderedMap.ext (sortedByName_of_perm h a.nodup)

/-- Attributes with the same names and values in another order are tidied to the same. -/
theorem tidied_of_perm {a b : Attributes} (ha : a.Lowered) (h : a.entries.Perm b.entries) :
    a.tidied = b.tidied := by
  unfold tidied
  rw [if_pos ha, if_pos ((lowered_iff_of_perm h).1 ha), sorted_of_perm h]

@[simp] theorem tidied_tidied (a : Attributes) : a.tidied.tidied = a.tidied := by
  by_cases ha : a.Lowered
  · have hperm := a.perm_tidied
    exact tidied_of_perm ((lowered_iff_of_perm hperm).2 ha) hperm
  · have hsame : a.tidied = a := if_neg ha
    rw [hsame, hsame]

theorem get?_of_perm {a b : Attributes} (h : a.entries.Perm b.entries) (name : Text) :
    a.get? name = b.get? name := by
  -- a value is looked up just where its entry is among the entries
  have hmem : ∀ (c : Attributes) (value : Text),
      c.get? name = some value ↔ (name, value) ∈ c.entries := by
    intro c value
    constructor
    · intro hvalue
      unfold OrderedMap.get? at hvalue
      rcases Option.map_eq_some_iff.1 hvalue with ⟨e, he, rfl⟩
      have hname : e.1 = name := by simpa using List.find?_some he
      exact hname ▸ List.mem_of_find?_eq_some he
    · intro hvalue
      exact OrderedMap.get?_of_mem hvalue
  apply Option.ext
  intro value
  rw [hmem, hmem, h.mem_iff]

theorem get?_tidied (a : Attributes) (name : Text) : a.tidied.get? name = a.get? name :=
  get?_of_perm a.perm_tidied name

/-- Where all names are in lower case, a name in letters of any case stands for one of them. -/
theorem find?_of_perm {a b : Attributes} (ha : a.Lowered) (h : a.entries.Perm b.entries)
    (name : Text) : a.entries.find? (fun e => Text.lowerAscii e.1 = Text.lowerAscii name) =
      b.entries.find? fun e => Text.lowerAscii e.1 = Text.lowerAscii name := by
  have hb := (lowered_iff_of_perm h).1 ha
  -- the entry that is found is the one with the name in lower case
  have hfind : ∀ c : Attributes, c.Lowered →
      c.entries.find? (fun e => Text.lowerAscii e.1 = Text.lowerAscii name) =
        (c.get? (Text.lowerAscii name)).map fun value => (Text.lowerAscii name, value) := by
    intro c hc
    have hsame : c.entries.find? (fun e => Text.lowerAscii e.1 = Text.lowerAscii name) =
        c.entries.find? fun e => e.1 = Text.lowerAscii name := by
      rw [← List.head?_filter, ← List.head?_filter]
      congr 1
      apply List.filter_congr
      intro e he
      rw [hc e.1 (List.mem_map_of_mem he)]
    rw [hsame, OrderedMap.get?, Option.map_map]
    cases hfound : c.entries.find? fun e => e.1 = Text.lowerAscii name with
    | none => rfl
    | some e =>
      have hname : e.1 = Text.lowerAscii name := by simpa using List.find?_some hfound
      show some e = some (Text.lowerAscii name, e.2)
      rw [← hname]
  rw [hfind a ha, hfind b hb, get?_of_perm h]

theorem find?_tidied (a : Attributes) (name : Text) :
    a.tidied.entries.find? (fun e => Text.lowerAscii e.1 = Text.lowerAscii name) =
      a.entries.find? fun e => Text.lowerAscii e.1 = Text.lowerAscii name := by
  by_cases ha : a.Lowered
  · exact find?_of_perm ((lowered_iff_of_perm a.perm_tidied).2 ha) a.perm_tidied name
  · rw [show a.tidied = a from if_neg ha]

/-! ## Writing to tidied attributes -/

theorem perm_insert {a b : Attributes} (h : a.entries.Perm b.entries) (name value : Text) :
    (a.insert name value).entries.Perm (b.insert name value).entries := by
  have ha := OrderedMap.perm_put name value a.nodup
  have hb := OrderedMap.perm_put name value b.nodup
  exact ha.trans (((h.filter _).cons _).trans hb.symm)

theorem lowered_insert {a : Attributes} (ha : a.Lowered) {name : Text}
    (hname : Text.lowerAscii name = name) (value : Text) : Attributes.Lowered (a.insert name value) := by
  intro other hother
  have hkeys : other ∈ (OrderedMap.put name value a.entries).map Prod.fst := hother
  rw [OrderedMap.keys_put] at hkeys
  split at hkeys
  · exact ha other hkeys
  · rcases List.mem_append.1 hkeys with hkeys | hkeys
    · exact ha other hkeys
    · rw [List.mem_singleton.1 hkeys, hname]

/-- Writing to attributes and tidying them can change places. -/
theorem tidied_insert_tidied (a : Attributes) {name : Text} (hname : Text.lowerAscii name = name)
    (value : Text) :
    Attributes.tidied (a.tidied.insert name value) = Attributes.tidied (a.insert name value) := by
  by_cases ha : a.Lowered
  · have hinsert := lowered_insert ((lowered_iff_of_perm a.perm_tidied).2 ha) hname value
    exact tidied_of_perm hinsert (perm_insert a.perm_tidied name value)
  · rw [show a.tidied = a from if_neg ha]

/-- Leaving out an attribute and tidying the others can change places. -/
theorem tidied_erase_tidied (a : Attributes) (name : Text) :
    Attributes.tidied (a.tidied.erase name) = Attributes.tidied (a.erase name) := by
  by_cases ha : a.Lowered
  · have hperm : (a.tidied.erase name).entries.Perm (a.erase name).entries :=
      a.perm_tidied.filter _
    have herase : Attributes.Lowered (a.tidied.erase name) := by
      intro other hother
      rcases List.mem_map.1 hother with ⟨e, he, rfl⟩
      exact (lowered_iff_of_perm a.perm_tidied).2 ha e.1
        (List.mem_map_of_mem (List.mem_of_mem_filter he))
    exact tidied_of_perm herase hperm
  · rw [show a.tidied = a from if_neg ha]

end Attributes

/-! ## Writing attributes -/

theorem writtenAttributes_of_perm (element : Text) {a b : Attributes}
    (h : a.entries.Perm b.entries) :
    (writtenAttributes element a).Perm (writtenAttributes element b) := by
  have hget := Attributes.get?_of_perm h
  unfold writtenAttributes OrderedMap.contains
  simp only [hget]
  split
  · exact h
  · split
    · exact Attributes.perm_insert h _ _
    · split
      · split
        · exact Attributes.perm_insert h _ _
        · exact h
      · exact h

/-- What is written are the attributes, or the attributes with another value for one of them. -/
theorem writtenAttributes_cases (element : Text) (a : Attributes) :
    writtenAttributes element a = a.entries ∨
      ∃ name value, writtenAttributes element a = (a.insert name value).entries := by
  unfold writtenAttributes
  simp only
  split
  · exact Or.inl rfl
  · split
    · exact Or.inr ⟨_, _, rfl⟩
    · split
      · split
        · exact Or.inr ⟨_, _, rfl⟩
        · exact Or.inl rfl
      · exact Or.inl rfl

theorem nodup_writtenAttributes (element : Text) (a : Attributes) :
    ((writtenAttributes element a).map Prod.fst).Nodup := by
  rcases writtenAttributes_cases element a with h | ⟨name, value, h⟩
  · rw [h]
    exact a.nodup
  · rw [h]
    exact OrderedMap.nodup _

/-- Attributes are written in the same way whatever their order is. -/
theorem attributesText_tidied (element : Text) (a : Attributes) :
    attributesText element a.tidied = attributesText element a := by
  unfold attributesText
  rw [sortedByName_of_perm (writtenAttributes_of_perm element a.perm_tidied)
    (nodup_writtenAttributes element a.tidied)]

end GeneratedContent.Html
