import GeneratedContent.Html.Edit
import Mathlib.Data.List.Nodup

/-!
# Elements of a page

The elements of a page are listed in document order, each with its parts (`Node.elementsAll`). This
module says when they are numbered as they should be (`Page.WellNumbered`), relates the list to the
places of the page, and describes what a page looks like after its elements have been given new
attributes and new nodes around what they hold (`Node.enrichAll`).
-/

namespace GeneratedContent.Html

/-- An element with its parts. -/
structure Element where
  /-- The number of the element. -/
  id : Nat
  /-- The name of the element. -/
  name : Text
  /-- The attributes of the element. -/
  attributes : Attributes
  /-- The nodes inside. -/
  contents : List Node

mutual

/-- The elements of a node in document order: the node itself, and what lies inside it. -/
def Node.elements : Node → List Element
  | .element id name attributes children =>
    ⟨id, name, attributes, children⟩ :: Node.elementsAll children
  | .text _ => []
  | .aside _ _ => []

/-- The elements among nodes and inside them, in document order. -/
def Node.elementsAll : List Node → List Element
  | [] => []
  | n :: ns => Node.elements n ++ Node.elementsAll ns

end

/-- The numbers of the elements among nodes and inside them, in document order. -/
def Node.ids (ns : List Node) : List Nat := (Node.elementsAll ns).map Element.id

namespace Node

@[simp] theorem elementsAll_nil : elementsAll [] = [] := by simp only [elementsAll]

@[simp] theorem elementsAll_cons (n : Node) (ns : List Node) :
    elementsAll (n :: ns) = elements n ++ elementsAll ns := by
  simp only [elementsAll]

@[simp] theorem elements_element (id : Nat) (name : Text) (attributes : Attributes)
    (children : List Node) :
    elements (.element id name attributes children) =
      ⟨id, name, attributes, children⟩ :: elementsAll children := by
  simp only [elements]

@[simp] theorem elements_text (content : Text) : elements (.text content) = [] := by
  simp only [elements]

@[simp] theorem elements_aside (kind : Aside) (content : Text) :
    elements (.aside kind content) = [] := by
  simp only [elements]

@[simp] theorem elementsAll_append (ms ns : List Node) :
    elementsAll (ms ++ ns) = elementsAll ms ++ elementsAll ns := by
  induction ms with
  | nil => simp
  | cons m ms ih => simp [ih]

theorem mem_elementsAll {ns : List Node} {e : Element} :
    e ∈ elementsAll ns ↔ ∃ n ∈ ns, e ∈ n.elements := by
  induction ns with
  | nil => simp
  | cons n ns ih => simp [ih]

@[simp] theorem ids_nil : ids [] = [] := rfl

@[simp] theorem ids_append (ms ns : List Node) : ids (ms ++ ns) = ids ms ++ ids ns := by
  simp [ids]

theorem ids_cons (n : Node) (ns : List Node) : ids (n :: ns) = ids [n] ++ ids ns := by
  simp [ids]

@[simp] theorem ids_element (id : Nat) (name : Text) (attributes : Attributes)
    (children ns : List Node) :
    ids (.element id name attributes children :: ns) = id :: (ids children ++ ids ns) := by
  simp [ids]

@[simp] theorem ids_text (content : Text) (ns : List Node) : ids (.text content :: ns) = ids ns := by
  simp [ids]

@[simp] theorem ids_aside (kind : Aside) (content : Text) (ns : List Node) :
    ids (.aside kind content :: ns) = ids ns := by
  simp [ids]

theorem mem_ids {i : Nat} {ns : List Node} : i ∈ ids ns ↔ ∃ e ∈ elementsAll ns, e.id = i := by
  simp [ids]

end Node

/-- Elements with the same number are the same where no number comes twice. -/
theorem Node.eq_of_id_eq {ns : List Node} (h : (ids ns).Nodup) {d e : Element}
    (hd : d ∈ elementsAll ns) (he : e ∈ elementsAll ns) (hid : d.id = e.id) : d = e :=
  List.inj_on_of_nodup_map h hd he hid

mutual

theorem Node.mem_elements_of_mem_contents {c e : Element} : (n : Node) → e ∈ n.elements →
    c ∈ elementsAll e.contents → c ∈ n.elements
  | .element id name attributes children => by
    intro he hc
    rw [elements_element, List.mem_cons] at he ⊢
    rcases he with rfl | he
    · exact Or.inr hc
    · exact Or.inr (mem_elementsAll_of_mem_contents children he hc)
  | .text content => by
    intro he
    rw [elements_text] at he
    exact absurd he List.not_mem_nil
  | .aside kind content => by
    intro he
    rw [elements_aside] at he
    exact absurd he List.not_mem_nil

/-- What lies inside an element among nodes lies inside the nodes. -/
theorem Node.mem_elementsAll_of_mem_contents {c e : Element} : (ns : List Node) →
    e ∈ elementsAll ns → c ∈ elementsAll e.contents → c ∈ elementsAll ns
  | [] => by
    intro he
    rw [elementsAll_nil] at he
    exact absurd he List.not_mem_nil
  | n :: ns => by
    intro he hc
    rw [elementsAll_cons, List.mem_append] at he ⊢
    rcases he with he | he
    · exact Or.inl (mem_elements_of_mem_contents n he hc)
    · exact Or.inr (mem_elementsAll_of_mem_contents ns he hc)

end

/-- Whether the elements of a page have numbers of their own, from one on, and the next number is
none of them. -/
structure Page.WellNumbered (p : Page) : Prop where
  /-- No two elements have the same number. -/
  nodup : (Node.ids p.nodes).Nodup
  /-- The number zero is left for the page. -/
  pos : ∀ i ∈ Node.ids p.nodes, 0 < i
  /-- The numbers from the next one on are free. -/
  lt : ∀ i ∈ Node.ids p.nodes, i < p.nextId
  /-- The next number is no exception. -/
  next : 0 < p.nextId

/-! ## Places -/

namespace Place

/-- The element at a place. The page itself counts as one here. -/
def element (p : Place) : Element := ⟨p.id, p.name, p.attributes, p.contents⟩

mutual

theorem map_element_allOfNode (parent : Place) (before after : List Node) :
    (n : Node) → (allOfNode parent before after n).map element = n.elements
  | .element id name attributes children => by
    have h := map_element_allOfNodes
      (.inside parent before id name attributes children after) [] children
    simp only [allOfNode, List.map_cons, h, Node.elements_element]
    rfl
  | .text _ => by simp only [allOfNode, List.map_nil, Node.elements_text]
  | .aside _ _ => by simp only [allOfNode, List.map_nil, Node.elements_aside]

theorem map_element_allOfNodes (parent : Place) (before : List Node) :
    (ns : List Node) → (allOfNodes parent before ns).map element = Node.elementsAll ns
  | [] => by simp only [allOfNodes, List.map_nil, Node.elementsAll_nil]
  | n :: ns => by
    have hn := map_element_allOfNode parent before ns n
    have hns := map_element_allOfNodes parent (n :: before) ns
    simp only [allOfNodes, List.map_append, hn, hns, Node.elementsAll_cons]

end

/-- The places inside a place are those of the elements inside, in document order. -/
theorem map_element_descendants (p : Place) :
    p.descendants.map element = Node.elementsAll p.contents :=
  map_element_allOfNodes p [] p.contents

theorem mem_elementsAll_of_mem_ofNodes {parent : Place} {before ns : List Node} {q : Place}
    (h : q ∈ ofNodes parent before ns) : q.element ∈ Node.elementsAll ns := by
  induction ns generalizing before with
  | nil => exact absurd h List.not_mem_nil
  | cons n ns ih =>
    rw [Node.elementsAll_cons, List.mem_append]
    cases n with
    | element id name attributes children =>
      rcases List.mem_cons.1 h with rfl | h
      · exact Or.inl List.mem_cons_self
      · exact Or.inr (ih h)
    | text content => exact Or.inr (ih h)
    | aside kind content => exact Or.inr (ih h)

theorem map_id_descendants (p : Place) : p.descendants.map id = Node.ids p.contents := by
  rw [Node.ids, ← map_element_descendants, List.map_map]
  rfl

mutual

theorem ancestors_allOfNode {parent : Place} {before after : List Node} {q : Place} :
    (n : Node) → q ∈ allOfNode parent before after n → ∀ a ∈ q.ancestors,
      a ∈ parent :: parent.ancestors ∨
        a ∈ allOfNode parent before after n ∧ q ∈ a.descendants
  | .element id name attributes children => by
    intro hq a ha
    simp only [allOfNode, List.mem_cons] at hq
    rcases hq with rfl | hq
    · left
      simpa only [ancestors] using ha
    · -- the ancestors inside the element are found in its children; the next one is the element
      rcases ancestors_allOfNodes children hq a ha with hparent | ⟨hmem, hbelow⟩
      · rcases List.mem_cons.1 hparent with rfl | hparent
        · right
          simp only [allOfNode, List.mem_cons, true_or, true_and]
          exact hq
        · left
          simpa only [ancestors] using hparent
      · right
        simp only [allOfNode, List.mem_cons]
        exact ⟨Or.inr hmem, hbelow⟩
  | .text _ => by
    intro hq
    simp only [allOfNode, List.not_mem_nil] at hq
  | .aside _ _ => by
    intro hq
    simp only [allOfNode, List.not_mem_nil] at hq

theorem ancestors_allOfNodes {parent : Place} {before : List Node} {q : Place} :
    (ns : List Node) → q ∈ allOfNodes parent before ns → ∀ a ∈ q.ancestors,
      a ∈ parent :: parent.ancestors ∨
        a ∈ allOfNodes parent before ns ∧ q ∈ a.descendants
  | [] => by
    intro hq
    simp only [allOfNodes, List.not_mem_nil] at hq
  | n :: ns => by
    intro hq a ha
    simp only [allOfNodes, List.mem_append] at hq ⊢
    rcases hq with hq | hq
    · rcases ancestors_allOfNode n hq a ha with hparent | ⟨hmem, hbelow⟩
      · exact Or.inl hparent
      · exact Or.inr ⟨Or.inl hmem, hbelow⟩
    · rcases ancestors_allOfNodes ns hq a ha with hparent | ⟨hmem, hbelow⟩
      · exact Or.inl hparent
      · exact Or.inr ⟨Or.inr hmem, hbelow⟩

end

theorem mem_elementsAll_of_mem_descendants {p : Page} {q : Place} (h : q ∈ p.place.descendants) :
    q.element ∈ Node.elementsAll p.nodes := by
  have hmap := map_element_descendants p.place
  rw [show p.nodes = p.place.contents from rfl, ← hmap]
  exact List.mem_map_of_mem h

/-- Distinct places in a well numbered page have distinct numbers. -/
theorem nodup_map_id {p : Page} (hp : (Node.ids p.nodes).Nodup) {places : List Place}
    (hnodup : places.Nodup) (h : ∀ q ∈ places, q ∈ p.place.descendants) :
    (places.map id).Nodup := by
  have hids : (p.place.descendants.map id).Nodup := by
    rw [map_id_descendants]
    exact hp
  apply hnodup.map_on
  intro q hq q' hq' hid
  exact List.inj_on_of_nodup_map hids (h q hq) (h q' hq') hid

/-- What lies around an element of a page is the page, or an element of the page with the first one
inside it. -/
theorem ancestors_of_mem_descendants {p : Page} {q a : Place} (hq : q ∈ p.place.descendants)
    (ha : a ∈ q.ancestors) : a = p.place ∨ a ∈ p.place.descendants ∧ q ∈ a.descendants := by
  rcases ancestors_allOfNodes p.nodes hq a ha with hpage | hinside
  · left
    simpa only [Page.place, ancestors, List.mem_singleton] using hpage
  · exact Or.inr hinside

end Place

/-! ## Changes that make no difference -/

mutual

theorem Node.update_congr {i : Nat} {f g : Attributes → List Node → Attributes × List Node} :
    (n : Node) → (∀ e ∈ n.elements, e.id = i → ∀ children, f e.attributes children =
      g e.attributes children) → n.update i f = n.update i g
  | .element id name attributes children => by
    intro h
    have hchildren := updateAll_congr children fun e he => h e (List.mem_cons_of_mem _ he)
    simp only [update, hchildren]
    by_cases hid : id = i
    · have hself := h ⟨id, name, attributes, children⟩ List.mem_cons_self hid
      simp only [if_pos hid, hself]
    · simp only [if_neg hid]
  | .text _ => by
    intro _
    simp only [update]
  | .aside _ _ => by
    intro _
    simp only [update]

/-- Two changes have the same outcome if they agree on the attributes of the element. -/
theorem Node.updateAll_congr {i : Nat} {f g : Attributes → List Node → Attributes × List Node} :
    (ns : List Node) → (∀ e ∈ elementsAll ns, e.id = i → ∀ children, f e.attributes children =
      g e.attributes children) → updateAll i f ns = updateAll i g ns
  | [] => by
    intro _
    simp only [updateAll]
  | n :: ns => by
    intro h
    have hn := update_congr n fun e he => h e (List.mem_append_left _ he)
    have hns := updateAll_congr ns fun e he => h e (List.mem_append_right _ he)
    simp only [updateAll, hn, hns]

end

mutual

theorem Node.update_update (i : Nat) (a : Attributes)
    (change : Attributes → List Node → Attributes × List Node) : (n : Node) →
      (n.update i (fun _ children => (a, children))).update i change =
        n.update i fun _ children => change a children
  | .element id name attributes children => by
    have h := updateAll_updateAll i a change children
    by_cases hid : id = i
    · simp only [update, if_pos hid, h]
    · simp only [update, if_neg hid, h]
  | .text _ => by simp only [update]
  | .aside _ _ => by simp only [update]

/-- A change after the attributes have been replaced sees the new attributes. -/
theorem Node.updateAll_updateAll (i : Nat) (a : Attributes)
    (change : Attributes → List Node → Attributes × List Node) : (ns : List Node) →
      updateAll i change (updateAll i (fun _ children => (a, children)) ns) =
        updateAll i (fun _ children => change a children) ns
  | [] => by simp only [updateAll]
  | n :: ns => by
    simp only [updateAll, update_update i a change n, updateAll_updateAll i a change ns]

end

mutual

theorem Node.update_of_notMem {i : Nat} (change : Attributes → List Node → Attributes × List Node) :
    (n : Node) → i ∉ ids [n] → n.update i change = n
  | .element id name attributes children => by
    intro h
    simp only [ids_element, ids_nil, List.append_nil, List.mem_cons, not_or] at h
    have hchildren := updateAll_of_notMem change children h.2
    have hid : ¬ id = i := fun e => h.1 e.symm
    simp only [update, hchildren, if_neg hid]
  | .text _ => by
    intro _
    simp only [update]
  | .aside _ _ => by
    intro _
    simp only [update]

theorem Node.updateAll_of_notMem {i : Nat}
    (change : Attributes → List Node → Attributes × List Node) :
    (ns : List Node) → i ∉ ids ns → updateAll i change ns = ns
  | [] => by
    intro _
    simp only [updateAll]
  | n :: ns => by
    intro h
    rw [ids_cons, List.mem_append, not_or] at h
    simp only [updateAll, update_of_notMem change n h.1, updateAll_of_notMem change ns h.2]

end

theorem Node.updateAll_append (i : Nat) (change : Attributes → List Node → Attributes × List Node)
    (ms ns : List Node) :
    updateAll i change (ms ++ ns) = updateAll i change ms ++ updateAll i change ns := by
  induction ms with
  | nil => simp only [List.nil_append, updateAll]
  | cons m ms ih => simp only [List.cons_append, updateAll, ih]

/-! ## Additions -/

/-- What is added to the elements of a page, by their numbers. -/
structure Additions where
  /-- The attributes that an element has afterwards. -/
  attributes : Nat → Attributes → Attributes := fun _ a => a
  /-- The nodes that come before what an element holds. -/
  front : Nat → List Node := fun _ => []
  /-- The nodes that come behind what an element holds. -/
  back : Nat → List Node := fun _ => []

mutual

/-- A node with additions: elements keep their numbers and names, and what they hold stays together
and in order, with additions of its own. -/
def Node.enrich (x : Additions) : Node → Node
  | .element id name attributes children =>
    .element id name (x.attributes id attributes)
      (x.front id ++ (Node.enrichAll x children ++ x.back id))
  | .text content => .text content
  | .aside kind content => .aside kind content

/-- Nodes with additions. -/
def Node.enrichAll (x : Additions) : List Node → List Node
  | [] => []
  | n :: ns => Node.enrich x n :: Node.enrichAll x ns

end

/-- An element with additions. -/
def Element.enrich (x : Additions) (e : Element) : Element where
  id := e.id
  name := e.name
  attributes := x.attributes e.id e.attributes
  contents := x.front e.id ++ (Node.enrichAll x e.contents ++ x.back e.id)

/-- The elements that are added to the element with a number. -/
def Additions.elements (x : Additions) (i : Nat) : List Element :=
  Node.elementsAll (x.front i) ++ Node.elementsAll (x.back i)

theorem perm_around {α : Type} (front old new back : List α) :
    (front ++ ((old ++ new) ++ back)).Perm (old ++ ((front ++ back) ++ new)) := by
  have hback : ((old ++ new) ++ back).Perm (old ++ (back ++ new)) := by
    rw [List.append_assoc]
    exact List.perm_append_comm.append_left old
  have hfront := List.perm_append_comm_assoc front old (back ++ new)
  rw [List.append_assoc front back new]
  exact (hback.append_left front).trans hfront

mutual

theorem Node.elements_enrich (x : Additions) : (n : Node) →
    (n.enrich x).elements.Perm
      (n.elements.map (Element.enrich x) ++ (ids [n]).flatMap x.elements)
  | .element id name attributes children => by
    have h := elementsAll_enrichAll x children
    have hchildren := (h.append_right (elementsAll (x.back id))).append_left
      (elementsAll (x.front id))
    simp only [enrich, elements_element, elementsAll_append, List.map_cons, ids_element, ids_nil,
      List.append_nil, List.flatMap_cons, List.cons_append]
    exact (hchildren.trans (perm_around _ _ _ _)).cons _
  | .text _ => by simp only [enrich, elements_text, List.map_nil, ids_text, ids_nil,
      List.flatMap_nil, List.append_nil, List.Perm.refl]
  | .aside _ _ => by simp only [enrich, elements_aside, List.map_nil, ids_aside, ids_nil,
      List.flatMap_nil, List.append_nil, List.Perm.refl]

/-- The elements with additions are the elements as they were, each with its additions, and the
elements that have been added to them. -/
theorem Node.elementsAll_enrichAll (x : Additions) : (ns : List Node) →
    (elementsAll (enrichAll x ns)).Perm
      ((elementsAll ns).map (Element.enrich x) ++ (ids ns).flatMap x.elements)
  | [] => by simp only [enrichAll, elementsAll_nil, List.map_nil, ids_nil, List.flatMap_nil,
      List.append_nil, List.Perm.refl]
  | n :: ns => by
    have h := (elements_enrich x n).append (elementsAll_enrichAll x ns)
    rw [ids_cons, List.flatMap_append, elementsAll_cons, List.map_append]
    simp only [enrichAll, elementsAll_cons]
    refine h.trans ?_
    rw [List.append_assoc, List.append_assoc]
    refine List.Perm.append_left _ ?_
    exact List.perm_append_comm_assoc _ _ _

end

theorem Node.mem_elementsAll_enrichAll {x : Additions} {ns : List Node} {e : Element} :
    e ∈ elementsAll (enrichAll x ns) ↔
      (∃ d ∈ elementsAll ns, d.enrich x = e) ∨ ∃ i ∈ ids ns, e ∈ x.elements i := by
  rw [(elementsAll_enrichAll x ns).mem_iff]
  simp only [List.mem_append, List.mem_map, List.mem_flatMap]

mutual

theorem Node.enrich_none : (n : Node) → n.enrich {} = n
  | .element id name attributes children => by
    have h := enrichAll_none children
    simp only [enrich, h, List.nil_append, List.append_nil]
  | .text _ => by simp only [enrich]
  | .aside _ _ => by simp only [enrich]

/-- Without additions nodes stay as they are. -/
theorem Node.enrichAll_none : (ns : List Node) → enrichAll {} ns = ns
  | [] => by simp only [enrichAll]
  | n :: ns => by simp only [enrichAll, enrich_none n, enrichAll_none ns]

end

/-- Additions with one more: the attributes of the element with a number change once more, and
a node comes before or behind all that it has by then. -/
def Additions.extend (x : Additions) (i : Nat) (change : Attributes → Attributes) (first : Bool)
    (new : Node) : Additions where
  attributes := fun j a => if j = i then change (x.attributes j a) else x.attributes j a
  front := fun j => if j = i ∧ first = true then new :: x.front j else x.front j
  back := fun j => if j = i ∧ first = false then x.back j ++ [new] else x.back j

theorem Additions.perm_elements_extend (x : Additions) (i : Nat)
    (change : Attributes → Attributes) (first : Bool) (new : Node) :
    ((x.extend i change first new).elements i).Perm (new.elements ++ x.elements i) := by
  cases first with
  | true =>
    simp only [elements, extend, and_self, if_true, Node.elementsAll_cons, List.append_assoc,
      Bool.true_eq_false, and_false, if_false, List.Perm.refl]
  | false =>
    simp only [elements, extend, and_self, if_true, Node.elementsAll_append, Node.elementsAll_cons,
      Node.elementsAll_nil, List.append_nil, Bool.false_eq_true, and_false, if_false]
    rw [← List.append_assoc]
    exact List.perm_append_comm

theorem Additions.flatMap_elements_extend_of_notMem (x : Additions) {i : Nat}
    (change : Attributes → Attributes) (first : Bool) (new : Node) {is : List Nat} (h : i ∉ is) :
    is.flatMap (x.extend i change first new).elements = is.flatMap x.elements := by
  induction is with
  | nil => rfl
  | cons j is ih =>
    rw [List.mem_cons, not_or] at h
    have hj : ¬ j = i := fun e => h.1 e.symm
    have hsame : (x.extend i change first new).elements j = x.elements j := by
      simp only [elements, extend, hj, false_and, if_false]
    rw [List.flatMap_cons, List.flatMap_cons, hsame, ih h.2]

/-- One more addition adds its node to what has been added, once. -/
theorem Additions.perm_flatMap_extend (x : Additions) {i : Nat}
    (change : Attributes → Attributes) (first : Bool) (new : Node) {is : List Nat}
    (hnodup : is.Nodup) (h : i ∈ is) :
    (is.flatMap (x.extend i change first new).elements).Perm
      (new.elements ++ is.flatMap x.elements) := by
  induction is with
  | nil => exact absurd h List.not_mem_nil
  | cons j is ih =>
    rw [List.nodup_cons] at hnodup
    rw [List.flatMap_cons, List.flatMap_cons]
    -- the number comes once among the numbers, so the node is added once
    by_cases hj : i = j
    · subst hj
      rw [x.flatMap_elements_extend_of_notMem change first new hnodup.1, ← List.append_assoc]
      exact (x.perm_elements_extend i change first new).append_right _
    · have hmem : i ∈ is := (List.mem_cons.1 h).resolve_left hj
      have hsame : (x.extend i change first new).elements j = x.elements j := by
        simp only [elements, extend, Ne.symm hj, false_and, if_false]
      rw [hsame]
      refine ((ih hnodup.2 hmem).append_left _).trans ?_
      exact List.perm_append_comm_assoc _ _ _

mutual

theorem Node.update_enrich {x : Additions} {i : Nat} (change : Attributes → Attributes)
    (first : Bool) (new : Node) (hf : ∀ j, i ∉ ids (x.front j)) (hb : ∀ j, i ∉ ids (x.back j)) :
    (n : Node) →
      (n.enrich x).update i
          (fun a children => (change a, if first then new :: children else children ++ [new])) =
        n.enrich (x.extend i change first new)
  | .element id name attributes children => by
    have h := updateAll_enrichAll change first new hf hb children
    -- the additions around what the element holds are not touched, having other numbers
    simp only [enrich, update, updateAll_append, updateAll_of_notMem _ _ (hf id),
      updateAll_of_notMem _ _ (hb id), h]
    by_cases hid : id = i
    · cases first <;> simp [Additions.extend, hid]
    · simp [Additions.extend, hid]
  | .text _ => by simp only [enrich, update]
  | .aside _ _ => by simp only [enrich, update]

/-- Changing an element that has additions, by its attributes and by one node before or behind what
it holds, is one more addition. -/
theorem Node.updateAll_enrichAll {x : Additions} {i : Nat} (change : Attributes → Attributes)
    (first : Bool) (new : Node) (hf : ∀ j, i ∉ ids (x.front j)) (hb : ∀ j, i ∉ ids (x.back j)) :
    (ns : List Node) →
      updateAll i
          (fun a children => (change a, if first then new :: children else children ++ [new]))
          (enrichAll x ns) =
        enrichAll (x.extend i change first new) ns
  | [] => by simp only [enrichAll, updateAll]
  | n :: ns => by
    simp only [enrichAll, updateAll, update_enrich change first new hf hb n,
      updateAll_enrichAll change first new hf hb ns]

end

end GeneratedContent.Html
