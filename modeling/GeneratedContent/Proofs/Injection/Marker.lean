import GeneratedContent.Injection.Basic
import GeneratedContent.Proofs.Html.Elements
import GeneratedContent.Proofs.OrderedMap

/-!
# Markers among the elements of a page

A marker is one element and holds at most one text. Taking the markers out of a page leaves elements
that are no markers, with the numbers they had, and the attributes that an element is given with its
marker differ from its own in the style alone.
-/

namespace GeneratedContent

open Html

namespace Marker

theorem marks_attributes (settings : Settings) (m : Marker) :
    marks (m.attributes settings) = true := by
  unfold marks attributes
  have hne : sign ≠ "style".toList := by decide
  -- the style is written behind the sign, and it is another attribute
  show (((OrderedMap.insert _ _ _).insert _ _).insert _ _ |>.insert _ _).contains sign = true
  rw [OrderedMap.contains_insert_of_ne _ _ _ hne, OrderedMap.contains_insert_self]

@[simp] theorem elements_node (settings : Settings) (m : Marker) (id : Nat) :
    (m.node settings id).elements =
      [⟨id, settings.markerName, m.attributes settings,
        if m.text = [] then [] else [.text m.text]⟩] := by
  unfold node
  split <;> simp

/-! ## Taking markers out -/

mutual

theorem ids_drop : (n : Node) → (Node.ids (drop n)).Sublist (Node.ids [n])
  | .element id name attributes children => by
    have h := ids_dropAll children
    simp only [drop, Node.ids_element, Node.ids_nil, List.append_nil]
    split
    · exact List.nil_sublist _
    · simp only [Node.ids_element, Node.ids_nil, List.append_nil]
      exact h.cons_cons id
  | .text _ => by simp only [drop, Node.ids_text, List.Sublist.refl]
  | .aside _ _ => by simp only [drop, Node.ids_aside, List.Sublist.refl]

/-- Taking markers out numbers nothing anew. -/
theorem ids_dropAll : (ns : List Node) → (Node.ids (dropAll ns)).Sublist (Node.ids ns)
  | [] => by simp only [dropAll, Node.ids_nil, List.Sublist.refl]
  | n :: ns => by
    rw [Node.ids_cons]
    simp only [dropAll, Node.ids_append]
    exact (ids_drop n).append (ids_dropAll ns)

end

mutual

theorem marks_of_mem_drop : (n : Node) → ∀ e ∈ Node.elementsAll (drop n),
    marks e.attributes = false
  | .element id name attributes children => by
    intro e he
    simp only [drop] at he
    split at he
    · exact absurd he List.not_mem_nil
    · rename_i h
      simp only [Node.elementsAll_cons, Node.elements_element, Node.elementsAll_nil,
        List.append_nil, List.mem_cons] at he
      rcases he with rfl | he
      · exact Bool.eq_false_iff.2 h
      · exact marks_of_mem_dropAll children e he
  | .text _ => by
    intro e he
    simp only [drop, Node.elementsAll_cons, Node.elements_text, Node.elementsAll_nil,
      List.append_nil, List.not_mem_nil] at he
  | .aside _ _ => by
    intro e he
    simp only [drop, Node.elementsAll_cons, Node.elements_aside, Node.elementsAll_nil,
      List.append_nil, List.not_mem_nil] at he

/-- No marker is left after the markers have been taken out. -/
theorem marks_of_mem_dropAll : (ns : List Node) → ∀ e ∈ Node.elementsAll (dropAll ns),
    marks e.attributes = false
  | [] => by
    intro e he
    simp only [dropAll, Node.elementsAll_nil, List.not_mem_nil] at he
  | n :: ns => by
    intro e he
    simp only [dropAll, Node.elementsAll_append, List.mem_append] at he
    rcases he with he | he
    · exact marks_of_mem_drop n e he
    · exact marks_of_mem_dropAll ns e he

end

mutual

theorem exists_of_mem_drop {e : Element} : (n : Node) → e ∈ Node.elementsAll (drop n) →
    ∃ d ∈ n.elements, d.id = e.id ∧ d.name = e.name ∧ d.attributes = e.attributes
  | .element id name attributes children => by
    intro he
    simp only [drop] at he
    split at he
    · exact absurd he List.not_mem_nil
    · simp only [Node.elementsAll_cons, Node.elements_element, Node.elementsAll_nil,
        List.append_nil, List.mem_cons] at he
      rw [Node.elements_element]
      rcases he with rfl | he
      · exact ⟨_, List.mem_cons_self, rfl, rfl, rfl⟩
      · rcases exists_of_mem_dropAll children he with ⟨d, hd, hkept⟩
        exact ⟨d, List.mem_cons_of_mem _ hd, hkept⟩
  | .text _ => by
    intro he
    simp only [drop, Node.elementsAll_cons, Node.elements_text, Node.elementsAll_nil,
      List.append_nil, List.not_mem_nil] at he
  | .aside _ _ => by
    intro he
    simp only [drop, Node.elementsAll_cons, Node.elements_aside, Node.elementsAll_nil,
      List.append_nil, List.not_mem_nil] at he

/-- What is left without the markers are elements that were there before, as far as their start tags
go. -/
theorem exists_of_mem_dropAll {e : Element} : (ns : List Node) →
    e ∈ Node.elementsAll (dropAll ns) → ∃ d ∈ Node.elementsAll ns,
      d.id = e.id ∧ d.name = e.name ∧ d.attributes = e.attributes
  | [] => by
    intro he
    simp only [dropAll, Node.elementsAll_nil, List.not_mem_nil] at he
  | n :: ns => by
    intro he
    simp only [dropAll, Node.elementsAll_append, List.mem_append] at he
    rw [Node.elementsAll_cons]
    rcases he with he | he
    · rcases exists_of_mem_drop n he with ⟨d, hd, hkept⟩
      exact ⟨d, List.mem_append_left _ hd, hkept⟩
    · rcases exists_of_mem_dropAll ns he with ⟨d, hd, hkept⟩
      exact ⟨d, List.mem_append_right _ hd, hkept⟩

end

theorem dropAll_append (ms ns : List Node) : dropAll (ms ++ ns) = dropAll ms ++ dropAll ns := by
  induction ms with
  | nil => simp only [List.nil_append, dropAll]
  | cons m ms ih => simp only [List.cons_append, dropAll, ih, List.append_assoc]

mutual

theorem drop_enrich {x : Additions}
    (hx : ∀ i a, marks (x.attributes i a) = marks a)
    (hfront : ∀ i, dropAll (x.front i) = []) (hback : ∀ i, dropAll (x.back i) = []) : (n : Node) →
      (∀ e ∈ n.elements, marks e.attributes = false) →
        drop (n.enrich x) = [n.enrich { attributes := x.attributes }]
  | .element id name attributes children => by
    intro h
    have hself : marks attributes = false := h ⟨id, name, attributes, children⟩ List.mem_cons_self
    have hchildren := dropAll_enrichAll hx hfront hback children fun e he =>
      h e (List.mem_cons_of_mem _ he)
    simp only [Node.enrich, drop, hx, hself, dropAll_append, hfront, hback, hchildren,
      List.nil_append, List.append_nil, Bool.false_eq_true, if_false]
  | .text _ => by
    intro _
    simp only [Node.enrich, drop]
  | .aside _ _ => by
    intro _
    simp only [Node.enrich, drop]

/-- Taking out the markers that have been added leaves the elements with their new attributes. -/
theorem dropAll_enrichAll {x : Additions}
    (hx : ∀ i a, marks (x.attributes i a) = marks a)
    (hfront : ∀ i, dropAll (x.front i) = []) (hback : ∀ i, dropAll (x.back i) = []) :
    (ns : List Node) → (∀ e ∈ Node.elementsAll ns, marks e.attributes = false) →
      dropAll (Node.enrichAll x ns) = Node.enrichAll { attributes := x.attributes } ns
  | [] => by
    intro _
    simp only [Node.enrichAll, dropAll]
  | n :: ns => by
    intro h
    have hn := drop_enrich hx hfront hback n fun e he => h e (List.mem_append_left _ he)
    have hns := dropAll_enrichAll hx hfront hback ns fun e he => h e (List.mem_append_right _ he)
    simp only [Node.enrichAll, dropAll, hn, hns, List.singleton_append]

end

end Marker

/-- Taking the markers out of a well numbered page leaves a well numbered page. -/
theorem Html.Page.WellNumbered.withoutMarkers {p : Page} (h : p.WellNumbered) :
    p.withoutMarkers.WellNumbered := by
  have hsub := Marker.ids_dropAll p.nodes
  constructor
  · exact h.nodup.sublist hsub
  · intro i hi
    exact h.pos i (hsub.subset hi)
  · intro i hi
    exact h.lt i (hsub.subset hi)
  · exact h.next

/-- A page without its markers has no markers. -/
theorem Html.Page.marks_withoutMarkers (p : Page) :
    ∀ e ∈ Node.elementsAll p.withoutMarkers.nodes, Marker.marks e.attributes = false :=
  Marker.marks_of_mem_dropAll p.nodes

/-! ## The style of elements with a marker -/

/-- The attributes other than the style, in order. -/
def Html.Attributes.beyondStyle (attributes : Attributes) : Attributes :=
  attributes.erase styleAttribute

/-- Without the style the values of all other attributes are found as before. -/
theorem Html.Attributes.find?_beyondStyle (attributes : Attributes) {name : Text}
    (h : Text.lowerAscii name ≠ Text.lowerAscii styleAttribute) :
    (attributes.beyondStyle.entries.find? fun e => Text.lowerAscii e.1 = Text.lowerAscii name) =
      attributes.entries.find? fun e => Text.lowerAscii e.1 = Text.lowerAscii name := by
  show (attributes.entries.filter _).find? _ = _
  rw [List.find?_filter]
  congr 1
  funext e
  by_cases he : e.1 = styleAttribute
  · simp [he, Ne.symm h]
  · simp [he]

namespace Rule

/-- An element that gets a marker keeps its attributes other than the style. -/
theorem beyondStyle_markedAttributes (attributes : Attributes) :
    (markedAttributes attributes).beyondStyle = attributes.beyondStyle := by
  unfold markedAttributes
  simp only
  split
  · rfl
  · exact OrderedMap.erase_insert_self _ _ _

/-- An element that gets a marker becomes none by that. -/
theorem marks_markedAttributes (attributes : Attributes) :
    Marker.marks (markedAttributes attributes) = Marker.marks attributes := by
  unfold markedAttributes
  simp only
  split
  · rfl
  · exact OrderedMap.contains_insert_of_ne _ _ _ (by decide)

end Rule

end GeneratedContent
