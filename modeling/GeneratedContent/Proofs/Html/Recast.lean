import GeneratedContent.Proofs.Html.Elements
import GeneratedContent.Proofs.Html.Tidying

/-!
# Recasting a page

A page is recast by giving its elements other numbers and other attributes. All that is said about a
page by its places goes through: the places of the recast page are the places of the page, recast. Two
pages have the same shape if they differ in their numbers and in the order of attributes alone. Then
one recasts to the other (`Node.recastAll_of_shape_eq`), and they are written in the same way.
-/

namespace GeneratedContent.Html

/-- How elements get other numbers and other attributes. -/
structure Recasting where
  /-- The new number. -/
  id : Nat → Nat
  /-- The new attributes. -/
  attributes : Attributes → Attributes

mutual

/-- A node whose elements have other numbers and attributes. -/
def Node.recast (f : Recasting) : Node → Node
  | .element id name attributes children =>
    .element (f.id id) name (f.attributes attributes) (Node.recastAll f children)
  | .text content => .text content
  | .aside kind content => .aside kind content

/-- Nodes whose elements have other numbers and attributes. -/
def Node.recastAll (f : Recasting) : List Node → List Node
  | [] => []
  | n :: ns => Node.recast f n :: Node.recastAll f ns

end

/-- A place in the recast page. -/
def Place.recast (f : Recasting) : Place → Place
  | .page nodes => .page (Node.recastAll f nodes)
  | .inside parent before id name attributes children after =>
    .inside (parent.recast f) (Node.recastAll f before) (f.id id) name (f.attributes attributes)
      (Node.recastAll f children) (Node.recastAll f after)

/-- An element with another number and other attributes. -/
def Element.recast (f : Recasting) (e : Element) : Element :=
  ⟨f.id e.id, e.name, f.attributes e.attributes, Node.recastAll f e.contents⟩

variable (f : Recasting)

namespace Node

@[simp] theorem recastAll_nil : recastAll f [] = [] := by simp only [recastAll]

@[simp] theorem recastAll_cons (n : Node) (ns : List Node) :
    recastAll f (n :: ns) = n.recast f :: recastAll f ns := by
  simp only [recastAll]

@[simp] theorem recast_element (id : Nat) (name : Text) (attributes : Attributes)
    (children : List Node) :
    recast f (.element id name attributes children) =
      .element (f.id id) name (f.attributes attributes) (recastAll f children) := by
  simp only [recast]

@[simp] theorem recast_text (content : Text) : recast f (.text content) = .text content := by
  simp only [recast]

@[simp] theorem recast_aside (kind : Aside) (content : Text) :
    recast f (.aside kind content) = .aside kind content := by
  simp only [recast]

theorem recastAll_eq_map (ns : List Node) : recastAll f ns = ns.map (recast f) := by
  induction ns with
  | nil => simp
  | cons n ns ih => simp [ih]

@[simp] theorem recastAll_append (ms ns : List Node) :
    recastAll f (ms ++ ns) = recastAll f ms ++ recastAll f ns := by
  simp [recastAll_eq_map]

mutual

theorem elements_recast : (n : Node) → (n.recast f).elements = n.elements.map (Element.recast f)
  | .element _ _ _ children => by
    have h := elementsAll_recastAll children
    simp only [recast_element, elements_element, List.map_cons, h]
    rfl
  | .text _ => by simp only [recast_text, elements_text, List.map_nil]
  | .aside _ _ => by simp only [recast_aside, elements_aside, List.map_nil]

/-- The elements of the recast page are those of the page, recast. -/
theorem elementsAll_recastAll : (ns : List Node) →
    elementsAll (recastAll f ns) = (elementsAll ns).map (Element.recast f)
  | [] => by simp only [recastAll_nil, elementsAll_nil, List.map_nil]
  | n :: ns => by
    simp only [recastAll_cons, elementsAll_cons, List.map_append, elements_recast n,
      elementsAll_recastAll ns]

end

theorem ids_recastAll (ns : List Node) : ids (recastAll f ns) = (ids ns).map f.id := by
  rw [ids, elementsAll_recastAll, ids, List.map_map, List.map_map]
  rfl

mutual

theorem recast_recast (g : Recasting) : (n : Node) →
    (n.recast f).recast g = n.recast ⟨g.id ∘ f.id, g.attributes ∘ f.attributes⟩
  | .element _ _ _ children => by
    simp only [recast_element, recastAll_recastAll g children, Function.comp]
  | .text _ => by simp only [recast_text]
  | .aside _ _ => by simp only [recast_aside]

theorem recastAll_recastAll (g : Recasting) : (ns : List Node) →
    recastAll g (recastAll f ns) = recastAll ⟨g.id ∘ f.id, g.attributes ∘ f.attributes⟩ ns
  | [] => by simp only [recastAll_nil]
  | n :: ns => by
    simp only [recastAll_cons, recast_recast g n, recastAll_recastAll g ns]

end

end Node

/-! ## Places -/

namespace Place

theorem contents_recast (p : Place) : (p.recast f).contents = Node.recastAll f p.contents := by
  cases p <;> rfl

theorem name_recast (p : Place) : (p.recast f).name = p.name := by
  cases p <;> rfl

theorem parent?_recast (p : Place) : (p.recast f).parent? = p.parent?.map (recast f) := by
  cases p <;> rfl

theorem ancestors_recast (p : Place) : (p.recast f).ancestors = p.ancestors.map (recast f) := by
  induction p with
  | page nodes => rfl
  | inside parent before id name attributes children after ih =>
    simp only [recast, ancestors, List.map_cons, ih]

mutual

theorem allOfNode_recast (parent : Place) (before after : List Node) : (n : Node) →
    allOfNode (parent.recast f) (Node.recastAll f before) (Node.recastAll f after) (n.recast f) =
      (allOfNode parent before after n).map (recast f)
  | .element id name attributes children => by
    have h := allOfNodes_recast (.inside parent before id name attributes children after) []
      children
    simp only [recast, Node.recastAll_nil] at h
    simp only [Node.recast_element, allOfNode, List.map_cons, h, recast]
  | .text _ => by simp only [Node.recast_text, allOfNode, List.map_nil]
  | .aside _ _ => by simp only [Node.recast_aside, allOfNode, List.map_nil]

theorem allOfNodes_recast (parent : Place) (before : List Node) : (ns : List Node) →
    allOfNodes (parent.recast f) (Node.recastAll f before) (Node.recastAll f ns) =
      (allOfNodes parent before ns).map (recast f)
  | [] => by simp only [Node.recastAll_nil, allOfNodes, List.map_nil]
  | n :: ns => by
    have hn := allOfNode_recast parent before ns n
    have hns := allOfNodes_recast parent (n :: before) ns
    simp only [Node.recastAll_cons] at hns
    simp only [Node.recastAll_cons, allOfNodes, List.map_append, hn, hns]

end

/-- The places inside a recast place are those inside the place, recast. -/
theorem descendants_recast (p : Place) :
    (p.recast f).descendants = p.descendants.map (recast f) := by
  unfold descendants
  rw [contents_recast]
  exact allOfNodes_recast f p [] p.contents

theorem ofNodes_recast (parent : Place) (before ns : List Node) :
    ofNodes (parent.recast f) (Node.recastAll f before) (Node.recastAll f ns) =
      (ofNodes parent before ns).map (recast f) := by
  induction ns generalizing before with
  | nil => rfl
  | cons n ns ih =>
    have hns := ih (n :: before)
    rw [Node.recastAll_cons] at hns
    rw [Node.recastAll_cons]
    cases n with
    | element id name attributes children =>
      simp only [Node.recast_element] at hns
      simp only [Node.recast_element, ofNodes, hns, List.map_cons, recast]
    | text content =>
      simp only [Node.recast_text] at hns
      simp only [Node.recast_text, ofNodes, hns]
    | aside kind content =>
      simp only [Node.recast_aside] at hns
      simp only [Node.recast_aside, ofNodes, hns]

theorem ofNodesBefore_recast (parent : Place) (before after : List Node) :
    ofNodesBefore (parent.recast f) (Node.recastAll f before) (Node.recastAll f after) =
      (ofNodesBefore parent before after).map (recast f) := by
  induction before generalizing after with
  | nil => rfl
  | cons n before ih =>
    have hbefore := ih (n :: after)
    rw [Node.recastAll_cons] at hbefore
    rw [Node.recastAll_cons]
    cases n with
    | element id name attributes children =>
      simp only [Node.recast_element] at hbefore
      simp only [Node.recast_element, ofNodesBefore, hbefore, List.map_cons, recast]
    | text content =>
      simp only [Node.recast_text] at hbefore
      simp only [Node.recast_text, ofNodesBefore, hbefore]
    | aside kind content =>
      simp only [Node.recast_aside] at hbefore
      simp only [Node.recast_aside, ofNodesBefore, hbefore]

theorem children_recast (p : Place) : (p.recast f).children = p.children.map (recast f) := by
  unfold children
  rw [contents_recast]
  exact ofNodes_recast f p [] p.contents

theorem earlier_recast (p : Place) : (p.recast f).earlier = p.earlier.map (recast f) := by
  cases p with
  | page nodes => rfl
  | inside parent before id name attributes children after =>
    have h := ofNodesBefore_recast f parent before (.element id name attributes children :: after)
    simp only [Node.recastAll_cons, Node.recast_element] at h
    exact h

theorem later_recast (p : Place) : (p.recast f).later = p.later.map (recast f) := by
  cases p with
  | page nodes => rfl
  | inside parent before id name attributes children after =>
    have h := ofNodes_recast f parent (.element id name attributes children :: before) after
    simp only [Node.recastAll_cons, Node.recast_element] at h
    exact h

/-- The number of a recast place, where the number of the page stays zero. -/
theorem id_recast (h : f.id 0 = 0) (p : Place) : (p.recast f).id = f.id p.id := by
  cases p with
  | page nodes => exact h.symm
  | inside parent before id name attributes children after => rfl

end Place

/-! ## Pages of the same shape -/

/-- Other numbers, and the same attributes. -/
def Recasting.renumbering (id : Nat → Nat) : Recasting := ⟨id, fun a => a⟩

/-- Other numbers, and attributes in the order of their names. -/
def Recasting.tidying (id : Nat → Nat) : Recasting := ⟨id, Attributes.tidied⟩

mutual

/-- Neither numbers nor the order of attributes are written. -/
theorem Node.render_tidy (id : Nat → Nat) (raw : Bool) : (n : Node) →
    (n.recast (.tidying id)).render raw = n.render raw
  | .element _ name attributes children => by
    have h := renderAll_tidy id (isRawText name) children
    have hempty : (recastAll (.tidying id) children).isEmpty = children.isEmpty := by
      cases children <;> simp
    have hattributes := attributesText_tidied name attributes
    simp only [recast_element, render, h, hempty]
    rw [show attributesText name ((Recasting.tidying id).attributes attributes) = _ from hattributes]
  | .text _ => by simp only [recast_text]
  | .aside _ _ => by simp only [recast_aside]

theorem Node.renderAll_tidy (id : Nat → Nat) (raw : Bool) : (ns : List Node) →
    renderAll raw (recastAll (.tidying id) ns) = renderAll raw ns
  | [] => by simp only [recastAll_nil]
  | n :: ns => by
    simp only [recastAll_cons, renderAll, render_tidy id raw n, renderAll_tidy id raw ns]

end

mutual

/-- Whether two nodes are the same. -/
def Node.decEq : (m n : Node) → Decidable (m = n)
  | .element i name a ms, .element j name' b ns =>
    match decEqAll ms ns with
    | isTrue h => decidable_of_iff (i = j ∧ name = name' ∧ a = b) (by simp [h])
    | isFalse h => isFalse (by simp [h])
  | .text s, .text t => decidable_of_iff (s = t) (by simp)
  | .aside kind s, .aside kind' t => decidable_of_iff (kind = kind' ∧ s = t) (by simp)
  | .element _ _ _ _, .text _ => isFalse (by simp)
  | .element _ _ _ _, .aside _ _ => isFalse (by simp)
  | .text _, .element _ _ _ _ => isFalse (by simp)
  | .text _, .aside _ _ => isFalse (by simp)
  | .aside _ _, .element _ _ _ _ => isFalse (by simp)
  | .aside _ _, .text _ => isFalse (by simp)

/-- Whether two lists of nodes are the same. -/
def Node.decEqAll : (ms ns : List Node) → Decidable (ms = ns)
  | [], [] => isTrue rfl
  | [], _ :: _ => isFalse (by simp)
  | _ :: _, [] => isFalse (by simp)
  | m :: ms, n :: ns =>
    match decEq m n, decEqAll ms ns with
    | isTrue h, isTrue hs => isTrue (by rw [h, hs])
    | isFalse h, _ => isFalse (by simp [h])
    | _, isFalse hs => isFalse (by simp [hs])

end

instance : DecidableEq Node := Node.decEq

/-- The shape of nodes: all but their numbers and the order of their attributes. -/
def Node.shape (ns : List Node) : List Node := recastAll (.tidying fun _ => 0) ns

theorem exists_map_eq {α β : Type} [DecidableEq α] [Inhabited β] {l : List α} {m : List β}
    (hnodup : l.Nodup) (hlength : l.length = m.length) : ∃ g : α → β, l.map g = m := by
  induction l generalizing m with
  | nil => exact ⟨fun _ => default, (List.length_eq_zero_iff.1 hlength.symm).symm⟩
  | cons a l ih =>
    cases m with
    | nil => exact absurd hlength (by simp)
    | cons b m =>
      rw [List.nodup_cons] at hnodup
      rcases ih hnodup.2 (Nat.succ.inj hlength) with ⟨g, hg⟩
      -- the first element is told from the others, which it is none of
      refine ⟨fun c => if c = a then b else g c, ?_⟩
      have htail : l.map (fun c => if c = a then b else g c) = l.map g := by
        apply List.map_congr_left
        intro c hc
        have hne : c ≠ a := fun e => hnodup.1 (e ▸ hc)
        exact if_neg hne
      rw [List.map_cons, htail, hg, if_pos rfl]

theorem Node.length_ids_of_shape_eq {ms ns : List Node} (h : shape ms = shape ns) :
    (ids ms).length = (ids ns).length := by
  have hids := congrArg (fun ns => (ids ns).length) h
  simp only [shape, ids_recastAll, List.length_map] at hids
  exact hids

mutual

theorem Node.recast_of_shape_eq {id : Nat → Nat} : (m n : Node) →
    m.recast (.tidying fun _ => 0) = n.recast (.tidying fun _ => 0) →
    (ids [m]).map id = ids [n] → m.recast (.tidying id) = n.recast (.tidying fun i => i)
  | .element _ _ attributes children, .element _ _ attributes' children' => by
    intro h hids
    simp only [recast_element, Node.element.injEq] at h
    simp only [ids_element, ids_nil, List.append_nil, List.map_cons, List.cons.injEq] at hids
    have hattributes : attributes.tidied = attributes'.tidied := h.2.2.1
    have hchildren := recastAll_of_shape_eq children children' h.2.2.2 hids.2
    rw [recast_element, recast_element, hchildren, h.2.1]
    show Node.element (id _) _ attributes.tidied _ = Node.element _ _ attributes'.tidied _
    rw [hattributes, hids.1]
    rfl
  | .text _, .text _ => by
    intro h _
    simpa only [recast_text] using h
  | .aside _ _, .aside _ _ => by
    intro h _
    simpa only [recast_aside] using h
  | .element _ _ _ _, .text _ => by simp
  | .element _ _ _ _, .aside _ _ => by simp
  | .text _, .element _ _ _ _ => by simp
  | .text _, .aside _ _ => by simp
  | .aside _ _, .element _ _ _ _ => by simp
  | .aside _ _, .text _ => by simp

/-- Nodes of the same shape are renumbered versions of each other, but for the order of
attributes. -/
theorem Node.recastAll_of_shape_eq {id : Nat → Nat} : (ms ns : List Node) →
    shape ms = shape ns → (ids ms).map id = ids ns →
      recastAll (.tidying id) ms = recastAll (.tidying fun i => i) ns
  | [], [] => by
    intro _ _
    simp only [recastAll_nil]
  | [], _ :: _ => by
    intro h
    simp [shape] at h
  | _ :: _, [] => by
    intro h
    simp [shape] at h
  | m :: ms, n :: ns => by
    intro h hids
    simp only [shape, recastAll_cons, List.cons.injEq] at h
    -- the first nodes have as many numbers as each other, so the numbers split in the same way
    have hlength : (ids [m]).length = (ids [n]).length := by
      apply length_ids_of_shape_eq
      simp only [shape, recastAll_cons, recastAll_nil, h.1]
    rw [ids_cons m, ids_cons n, List.map_append] at hids
    rcases List.append_inj hids (by rw [List.length_map, hlength]) with ⟨hm, hms⟩
    rw [recastAll_cons, recastAll_cons, recast_of_shape_eq m n h.1 hm,
      recastAll_of_shape_eq ms ns h.2 hms]

end

/-! ## Additions to a recast page -/

/-- Whether the additions `y` to a recast element are the additions `x` to the element, recast. -/
structure Additions.Recast (f : Recasting) (x y : Additions) (e : Element) : Prop where
  /-- The new attributes of the recast element are the recast new attributes. -/
  attributes : f.attributes (x.attributes e.id e.attributes) =
    y.attributes (f.id e.id) (f.attributes e.attributes)
  /-- The nodes before what the element holds. -/
  front : Node.recastAll f (x.front e.id) = y.front (f.id e.id)
  /-- The nodes behind what the element holds. -/
  back : Node.recastAll f (x.back e.id) = y.back (f.id e.id)

mutual

theorem Node.recast_enrich {f : Recasting} {x y : Additions} : (n : Node) →
    (∀ e ∈ n.elements, x.Recast f y e) → (n.enrich x).recast f = (n.recast f).enrich y
  | .element id name attributes children => by
    intro h
    have hchildren := recastAll_enrichAll children fun e he => h e (List.mem_cons_of_mem _ he)
    rcases h ⟨id, name, attributes, children⟩ List.mem_cons_self with ⟨ha, hfront, hback⟩
    simp only [enrich, recast_element, recastAll_append, hchildren]
    rw [show f.attributes (x.attributes id attributes) = _ from ha,
      show recastAll f (x.front id) = _ from hfront, show recastAll f (x.back id) = _ from hback]
  | .text _ => by
    intro _
    simp only [enrich, recast_text]
  | .aside _ _ => by
    intro _
    simp only [enrich, recast_aside]

/-- A page with additions, recast, is the recast page with recast additions. -/
theorem Node.recastAll_enrichAll {f : Recasting} {x y : Additions} : (ns : List Node) →
    (∀ e ∈ elementsAll ns, x.Recast f y e) →
      recastAll f (enrichAll x ns) = enrichAll y (recastAll f ns)
  | [] => by
    intro _
    simp only [enrichAll, recastAll_nil]
  | n :: ns => by
    intro h
    have hn := recast_enrich n fun e he => h e (List.mem_append_left _ he)
    have hns := recastAll_enrichAll ns fun e he => h e (List.mem_append_right _ he)
    simp only [enrichAll, recastAll_cons, hn, hns]

end

mutual

theorem Node.recast_self : (n : Node) → n.recast (.renumbering fun i => i) = n
  | .element _ _ _ children => by
    have h := recastAll_self children
    rw [recast_element, h]
    rfl
  | .text _ => by simp only [recast_text]
  | .aside _ _ => by simp only [recast_aside]

theorem Node.recastAll_self : (ns : List Node) → recastAll (.renumbering fun i => i) ns = ns
  | [] => by simp only [recastAll_nil]
  | n :: ns => by simp only [recastAll_cons, recast_self n, recastAll_self ns]

end

/-- Additions that agree on the elements of a page have the same outcome. -/
theorem Node.enrichAll_congr {x y : Additions} {ns : List Node}
    (h : ∀ e ∈ elementsAll ns, x.attributes e.id e.attributes = y.attributes e.id e.attributes ∧
      x.front e.id = y.front e.id ∧ x.back e.id = y.back e.id) :
    enrichAll x ns = enrichAll y ns := by
  have hrecast := recastAll_enrichAll (f := .renumbering fun i => i) ns fun e he =>
    { attributes := (h e he).1
      front := (recastAll_self _).trans (h e he).2.1
      back := (recastAll_self _).trans (h e he).2.2 }
  rwa [recastAll_self, recastAll_self] at hrecast

mutual

theorem Node.enrich_enrich (change : Nat → Attributes → Attributes) (x : Additions) :
    (n : Node) → (n.enrich { attributes := change }).enrich x =
      n.enrich { x with attributes := fun i a => x.attributes i (change i a) }
  | .element _ _ _ children => by
    have h := enrichAll_enrichAll change x children
    simp only [enrich, List.nil_append, List.append_nil, h]
  | .text _ => by simp only [enrich]
  | .aside _ _ => by simp only [enrich]

/-- Additions after a mere change of attributes. -/
theorem Node.enrichAll_enrichAll (change : Nat → Attributes → Attributes) (x : Additions) :
    (ns : List Node) → enrichAll x (enrichAll { attributes := change } ns) =
      enrichAll { x with attributes := fun i a => x.attributes i (change i a) } ns
  | [] => by simp only [enrichAll]
  | n :: ns => by
    simp only [enrichAll, enrich_enrich change x n, enrichAll_enrichAll change x ns]

end

end GeneratedContent.Html
