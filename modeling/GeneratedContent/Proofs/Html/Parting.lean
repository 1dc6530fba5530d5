import GeneratedContent.Html.Printer
import GeneratedContent.Proofs.Html.Recast
import GeneratedContent.Proofs.Html.Tidying
import GeneratedContent.Proofs.OrderedMap

/-!
# Pages that part ways

Two texts part ways when they go on differently somewhere, so that neither begins with the other
(`Text.Parts`). What is written of two elements parts ways when one has a longer value in an
attribute than the other, if what the value goes on with is written as it is. Two pages whose
elements have the same additions around what they hold, but not the same attributes, are written
alike up to the first start tag with different attributes (`Node.parts_renderAll`).
-/

namespace GeneratedContent

/-- Whether two texts go on differently behind something that they have in common. -/
def Text.Parts (s t : Text) : Prop :=
  ∃ common c d s' t', c ≠ d ∧ s = common ++ c :: s' ∧ t = common ++ d :: t'

namespace Text.Parts

variable {s t : Text}

theorem ne (h : Parts s t) : s ≠ t := by
  rintro rfl
  rcases h with ⟨common, c, d, s', t', hne, hs, ht⟩
  have hrest : c :: s' = d :: t' := List.append_cancel_left (hs.symm.trans ht)
  exact hne (List.cons.inj hrest).1

theorem ne_nil (h : Parts s t) : s ≠ [] ∧ t ≠ [] := by
  rcases h with ⟨common, c, d, s', t', -, rfl, rfl⟩
  simp

theorem append (h : Parts s t) (x y : Text) : Parts (s ++ x) (t ++ y) := by
  rcases h with ⟨common, c, d, s', t', hne, rfl, rfl⟩
  exact ⟨common, c, d, s' ++ x, t' ++ y, hne, by simp, by simp⟩

theorem prepend (h : Parts s t) (x : Text) : Parts (x ++ s) (x ++ t) := by
  rcases h with ⟨common, c, d, s', t', hne, rfl, rfl⟩
  exact ⟨x ++ common, c, d, s', t', hne, by simp, by simp⟩

end Text.Parts

namespace Html

/-! ## Attribute values -/

/-- Whether a text is written as it is in an attribute value, in quotes of either kind. -/
def Unquoted (s : Text) : Prop := escaped s = s ∧ ¬ '"' ∈ s ∧ ¬ '\'' ∈ s

theorem escaped_append (s t : Text) : escaped (s ++ t) = escaped s ++ escaped t := by
  unfold escaped
  exact List.flatMap_append

/-- A value and the same value with more behind it part ways where the first one ends. -/
theorem parts_quotedValue (v : Text) {c : Char} {s : Text} (h : Unquoted (c :: s)) :
    Text.Parts (quotedValue v) (quotedValue (v ++ c :: s)) := by
  rcases h with ⟨hescaped, hdouble, hsingle⟩
  have hc : '"' ≠ c ∧ '\'' ≠ c := by
    simp only [List.mem_cons, not_or] at hdouble hsingle
    exact ⟨hdouble.1, hsingle.1⟩
  -- what comes behind has no quotes, so both values stand in quotes of the same kind
  have hcontains : (escaped v ++ c :: s).contains '"' = (escaped v).contains '"' ∧
      (escaped v ++ c :: s).contains '\'' = (escaped v).contains '\'' := by
    constructor
    · rw [Bool.eq_iff_iff, List.contains_iff_mem, List.contains_iff_mem, List.mem_append,
        or_iff_left hdouble]
    · rw [Bool.eq_iff_iff, List.contains_iff_mem, List.contains_iff_mem, List.mem_append,
        or_iff_left hsingle]
  unfold quotedValue
  simp only [escaped_append, hescaped, hcontains]
  split
  · exact ⟨'\'' :: escaped v, '\'', c, [], s ++ ['\''], hc.2, by simp, by simp⟩
  · refine ⟨'"' :: (escaped v).flatMap doublyQuotedChar, '"', c, [],
      s.flatMap doublyQuotedChar ++ ['"'], hc.1, by simp, ?_⟩
    have hquoted : doublyQuotedChar c = [c] := if_neg fun e => hc.1 e.symm
    simp [hquoted]

/-! ## Start tags -/

theorem putByName_amend (key : Text) (change : Text → Text) (e : Text × Text)
    (es : List (Text × Text)) :
    putByName (if e.1 = key then (e.1, change e.2) else e) (OrderedMap.amend key change es) =
      OrderedMap.amend key change (putByName e es) := by
  have hkey : ∀ d : Text × Text, (if d.1 = key then (d.1, change d.2) else d).1 = d.1 := by
    intro d
    split <;> rfl
  induction es with
  | nil => rfl
  | cons d es ih =>
    unfold OrderedMap.amend at ih ⊢
    simp only [List.map_cons, putByName, hkey]
    split
    · rfl
    · rw [ih]
      rfl

/-- Sorting looks at the names alone. -/
theorem sortedByName_amend (key : Text) (change : Text → Text) (es : List (Text × Text)) :
    sortedByName (OrderedMap.amend key change es) =
      OrderedMap.amend key change (sortedByName es) := by
  induction es with
  | nil => rfl
  | cons e es ih =>
    show putByName _ (sortedByName (OrderedMap.amend key change es)) = _
    rw [ih]
    exact putByName_amend key change e (sortedByName es)

theorem parts_attributeTexts {key : Text} {c : Char} {s : Text} (hs : Unquoted (c :: s))
    {es : List (Text × Text)} (h : key ∈ es.map Prod.fst) :
    Text.Parts (es.flatMap attributeText)
      ((OrderedMap.amend key (fun v => v ++ c :: s) es).flatMap attributeText) := by
  induction es with
  | nil => exact absurd h List.not_mem_nil
  | cons e es ih =>
    unfold OrderedMap.amend at ih ⊢
    rw [List.map_cons, List.flatMap_cons, List.flatMap_cons]
    -- the attributes before the changed one are written alike
    by_cases he : e.1 = key
    · rw [if_pos he]
      apply Text.Parts.append
      unfold attributeText
      have hvalue := (parts_quotedValue e.2 hs).prepend (' ' :: e.1 ++ ['='])
      simpa using hvalue
    · rw [if_neg he]
      have hmem : key ∈ es.map Prod.fst := by
        rcases List.mem_cons.1 h with h | h
        · exact absurd h.symm he
        · exact h
      exact (ih hmem).prepend _

/-- Whether a name is none of those that count when a page states its encoding. -/
def KeepsEncoding (name : Text) : Prop :=
  "charset".toList ≠ name ∧ "content".toList ≠ name ∧ "http-equiv".toList ≠ name

instance (name : Text) : Decidable (KeepsEncoding name) := inferInstanceAs (Decidable (_ ∧ _))

theorem writtenAttributes_modify {key : Text} (hkey : KeepsEncoding key) (change : Text → Text)
    (element : Text) (a : Attributes) :
    writtenAttributes element (a.modify key change) =
      OrderedMap.amend key change (writtenAttributes element a) := by
  rcases hkey with ⟨hcharset, hcontent, hheader⟩
  have hhas : (a.modify key change).contains "charset".toList = a.contains "charset".toList := by
    unfold OrderedMap.contains
    rw [OrderedMap.get?_modify_of_ne a key change hcharset]
  unfold writtenAttributes
  simp only [hhas, OrderedMap.get?_modify_of_ne a key change hcontent,
    OrderedMap.get?_modify_of_ne a key change hheader]
  split
  · rfl
  · split
    · exact OrderedMap.put_amend_of_ne key _ change hcharset a.entries
    · split
      · split
        · exact OrderedMap.put_amend_of_ne key _ change hcontent a.entries
        · rfl
      · rfl

theorem mem_keys_writtenAttributes {key : Text} (element : Text) {a : Attributes}
    (h : key ∈ a.entries.map Prod.fst) :
    key ∈ (writtenAttributes element a).map Prod.fst := by
  rcases writtenAttributes_cases element a with hsame | ⟨name, value, hinsert⟩
  · rw [hsame]
    exact h
  · rw [hinsert]
    show key ∈ (OrderedMap.put name value a.entries).map Prod.fst
    rw [OrderedMap.keys_put]
    split
    · exact h
    · exact List.mem_append_left _ h

/-- Start tags part ways where the value of an attribute goes on in one of them. -/
theorem parts_attributesText {key : Text} (hkey : KeepsEncoding key) {c : Char} {s : Text}
    (hs : Unquoted (c :: s)) (element : Text) {a : Attributes} {v : Text}
    (h : a.get? key = some v) :
    Text.Parts (attributesText element a)
      (attributesText element (a.modify key fun v => v ++ c :: s)) := by
  have hmem : key ∈ a.entries.map Prod.fst := by
    unfold OrderedMap.get? at h
    rcases Option.map_eq_some_iff.1 h with ⟨e, he, -⟩
    have hfst : e.1 = key := by simpa using List.find?_some he
    exact hfst ▸ List.mem_map_of_mem (List.mem_of_find?_eq_some he)
  have hsorted : key ∈ (sortedByName (writtenAttributes element a)).map Prod.fst := by
    rw [((perm_sortedByName _).map Prod.fst).mem_iff]
    exact mem_keys_writtenAttributes element hmem
  unfold attributesText
  rw [writtenAttributes_modify hkey, sortedByName_amend]
  exact parts_attributeTexts hs hsorted

/-! ## Pages -/

/-- Whether two kinds of additions put the same nodes around what elements hold. -/
structure Additions.SameNodes (x y : Additions) : Prop where
  /-- The nodes before it. -/
  front : ∀ i, x.front i = y.front i
  /-- The nodes behind it. -/
  back : ∀ i, x.back i = y.back i

/-- Whether two kinds of additions give an element the same attributes, or attributes that are
written differently. -/
def Additions.Comparable (x y : Additions) (e : Element) : Prop :=
  x.attributes e.id e.attributes = y.attributes e.id e.attributes ∨
    Text.Parts (attributesText e.name (x.attributes e.id e.attributes))
      (attributesText e.name (y.attributes e.id e.attributes))

theorem Node.renderAll_append (raw : Bool) (ms ns : List Node) :
    renderAll raw (ms ++ ns) = renderAll raw ms ++ renderAll raw ns := by
  induction ms with
  | nil => simp only [List.nil_append, renderAll]
  | cons m ms ih => simp only [List.cons_append, renderAll, ih, List.append_assoc]

/-- An element is written with its start tag first. -/
theorem Node.exists_render_element (raw : Bool) (id : Nat) (name : Text) (attributes : Attributes)
    (children : List Node) : ∃ rest, (Node.element id name attributes children).render raw =
      ('<' :: name) ++ (attributesText name attributes ++ rest) := by
  unfold render
  split
  · exact ⟨['/', '>'], by simp⟩
  · exact ⟨'>' :: renderAll (isRawText name) children ++ '<' :: '/' :: name ++ ['>'], by simp⟩

/-- An element that holds something is written with it between its tags. -/
theorem Node.render_element (raw : Bool) (id : Nat) (name : Text) (attributes : Attributes)
    {children : List Node} (h : children ≠ []) :
    (Node.element id name attributes children).render raw =
      ('<' :: name ++ attributesText name attributes ++ ['>']) ++
        (renderAll (isRawText name) children ++ ('<' :: '/' :: name ++ ['>'])) := by
  unfold render
  simp only [Bool.and_eq_true, List.isEmpty_iff]
  rw [if_neg fun hvoid => h hvoid.2]
  simp

/-- Elements part ways where their start tags do. -/
theorem Node.parts_render_tag (raw : Bool) (id : Nat) {name : Text} {a b : Attributes}
    (ms ns : List Node) (h : Text.Parts (attributesText name a) (attributesText name b)) :
    Text.Parts ((Node.element id name a ms).render raw)
      ((Node.element id name b ns).render raw) := by
  rcases exists_render_element raw id name a ms with ⟨rest, hrest⟩
  rcases exists_render_element raw id name b ns with ⟨rest', hrest'⟩
  rw [hrest, hrest']
  exact (h.append rest rest').prepend _

/-- Elements with the same start tag part ways where what they hold does. -/
theorem Node.parts_render_children (raw : Bool) (id : Nat) {name : Text} (a : Attributes)
    {ms ns : List Node}
    (h : Text.Parts (renderAll (isRawText name) ms) (renderAll (isRawText name) ns)) :
    Text.Parts ((Node.element id name a ms).render raw)
      ((Node.element id name a ns).render raw) := by
  -- nothing that is written differently is empty, so neither element closes at once
  have hms : ms ≠ [] := by
    rintro rfl
    exact h.ne_nil.1 (by simp only [renderAll])
  have hns : ns ≠ [] := by
    rintro rfl
    exact h.ne_nil.2 (by simp only [renderAll])
  rw [render_element raw id name a hms, render_element raw id name a hns]
  exact (h.append _ _).prepend _

mutual

theorem Node.parts_render {x y : Additions} (hxy : x.SameNodes y) (raw : Bool) : (n : Node) →
    (∀ e ∈ n.elements, x.Comparable y e) →
      (∀ e ∈ n.elements, x.attributes e.id e.attributes = y.attributes e.id e.attributes) ∨
        Text.Parts ((n.enrich x).render raw) ((n.enrich y).render raw)
  | .element id name attributes children => by
    intro h
    have hself := h ⟨id, name, attributes, children⟩ List.mem_cons_self
    have hchildren := parts_renderAll hxy (isRawText name) children fun e he =>
      h e (List.mem_cons_of_mem _ he)
    simp only [enrich]
    rcases hself with hself | hself
    · rw [show x.attributes id attributes = y.attributes id attributes from hself, hxy.front,
        hxy.back]
      rcases hchildren with hchildren | hchildren
      · left
        intro e he
        rcases List.mem_cons.1 he with rfl | he
        · exact hself
        · exact hchildren e he
      · right
        apply parts_render_children
        simp only [renderAll_append]
        exact (hchildren.append _ _).prepend _
    · right
      exact parts_render_tag raw id _ _ hself
  | .text _ => by
    intro _
    left
    intro e he
    rw [elements_text] at he
    exact absurd he List.not_mem_nil
  | .aside _ _ => by
    intro _
    left
    intro e he
    rw [elements_aside] at he
    exact absurd he List.not_mem_nil

/-- Two pages with the same nodes added are written alike just when their attributes are the same. -/
theorem Node.parts_renderAll {x y : Additions} (hxy : x.SameNodes y) (raw : Bool) :
    (ns : List Node) → (∀ e ∈ elementsAll ns, x.Comparable y e) →
      (∀ e ∈ elementsAll ns, x.attributes e.id e.attributes = y.attributes e.id e.attributes) ∨
        Text.Parts (renderAll raw (enrichAll x ns)) (renderAll raw (enrichAll y ns))
  | [] => by
    intro _
    left
    intro e he
    exact absurd he List.not_mem_nil
  | n :: ns => by
    intro h
    have hn := parts_render hxy raw n fun e he => h e (List.mem_append_left _ he)
    have hns := parts_renderAll hxy raw ns fun e he => h e (List.mem_append_right _ he)
    simp only [enrichAll, renderAll]
    rcases hn with hn | hn
    · rcases hns with hns | hns
      · left
        intro e he
        rcases List.mem_append.1 he with he | he
        · exact hn e he
        · exact hns e he
      · -- the node is written alike in both pages, since it is the same in both
        right
        have hsame : enrichAll x [n] = enrichAll y [n] := by
          apply enrichAll_congr
          intro e he
          rw [elementsAll_cons, elementsAll_nil, List.append_nil] at he
          exact ⟨hn e he, hxy.front e.id, hxy.back e.id⟩
        simp only [enrichAll, List.cons.injEq, and_true] at hsame
        rw [hsame]
        exact hns.prepend _
    · right
      exact hn.append _ _

end

end Html

end GeneratedContent
