import GeneratedContent.Proofs.Html.Elements

/-!
# Places in a page with additions

Additions stand around what elements hold, so every element of a page has a place in the page with
additions (`Place.enrich`). Seen from there the elements around it are those that were there before,
and elements that have been added: the siblings before are the old ones and, farther off, some that
have been added (`earlier_enrich`), and so it is for the siblings after. What no added element passes
finds the same elements inside (`filter_descendants_enrich`).
-/

namespace GeneratedContent.Html

namespace Place

variable (x : Additions)

/-- The nodes that are added before what a place holds. To the page itself nothing is added. -/
def front : Place → List Node
  | .page _ => []
  | .inside _ _ id _ _ _ _ => x.front id

/-- The nodes that are added behind what a place holds. -/
def back : Place → List Node
  | .page _ => []
  | .inside _ _ id _ _ _ _ => x.back id

/-- The place of an element in the page with additions. -/
def enrich : Place → Place
  | .page nodes => .page (Node.enrichAll x nodes)
  | .inside parent before id name attributes children after =>
    .inside parent.enrich (Node.enrichAll x before ++ (parent.front x).reverse) id name
      (x.attributes id attributes) (x.front id ++ (Node.enrichAll x children ++ x.back id))
      (Node.enrichAll x after ++ parent.back x)

/-- Whether a place is that of an element that has been added in front. -/
def AddedInFront (q : Place) : Prop := ∃ i, q.element ∈ Node.elementsAll (x.front i)

/-- Whether a place is that of an element that has been added behind. -/
def AddedBehind (q : Place) : Prop := ∃ i, q.element ∈ Node.elementsAll (x.back i)

variable {x}

@[simp] theorem id_enrich (p : Place) : (p.enrich x).id = p.id := by
  cases p <;> rfl

@[simp] theorem name_enrich (p : Place) : (p.enrich x).name = p.name := by
  cases p <;> rfl

@[simp] theorem parent?_enrich (p : Place) : (p.enrich x).parent? = p.parent?.map (enrich x) := by
  cases p <;> rfl

theorem contents_enrich (p : Place) :
    (p.enrich x).contents = p.front x ++ (Node.enrichAll x p.contents ++ p.back x) := by
  cases p with
  | page nodes => exact (List.append_nil _).symm
  | inside parent before id name attributes children after => rfl

theorem ancestors_enrich (p : Place) : (p.enrich x).ancestors = p.ancestors.map (enrich x) := by
  induction p with
  | page nodes => rfl
  | inside parent before id name attributes children after ih =>
    simp only [enrich, ancestors, List.map_cons, ih]

theorem addedInFront_of_mem {p q : Place} (h : q.element ∈ Node.elementsAll (p.front x)) :
    q.AddedInFront x := by
  cases p with
  | page nodes => exact absurd h (by simp [front])
  | inside parent before id name attributes children after => exact ⟨id, h⟩

theorem addedBehind_of_mem {p q : Place} (h : q.element ∈ Node.elementsAll (p.back x)) :
    q.AddedBehind x := by
  cases p with
  | page nodes => exact absurd h (by simp [back])
  | inside parent before id name attributes children after => exact ⟨id, h⟩

/-! ## Nodes that pass no test -/

/-- Nodes whose elements do not pass a test may be left out when places that pass it are sought. -/
theorem filter_allOfNodes_append {test : Place → Bool} (parent : Place) (before ns : List Node)
    {ms : List Node} (h : ∀ q : Place, q.element ∈ Node.elementsAll ms → test q = false) :
    (allOfNodes parent before (ms ++ ns)).filter test =
      (allOfNodes parent (ms.reverse ++ before) ns).filter test := by
  induction ms generalizing before with
  | nil => rfl
  | cons m ms ih =>
    have hm : (allOfNode parent before (ms ++ ns) m).filter test = [] := by
      rw [List.filter_eq_nil_iff]
      intro q hq
      have hmem := List.mem_map_of_mem (f := element) hq
      rw [map_element_allOfNode] at hmem
      exact Bool.eq_false_iff.1 (h q (List.mem_append_left _ hmem))
    have hms := ih (m :: before) fun q hq => h q (List.mem_append_right _ hq)
    rw [List.cons_append, allOfNodes, List.filter_append, hm, List.nil_append, hms,
      List.reverse_cons, List.append_assoc]
    rfl

theorem filter_allOfNodes_eq_nil {test : Place → Bool} (parent : Place) (before : List Node)
    {ms : List Node} (h : ∀ q : Place, q.element ∈ Node.elementsAll ms → test q = false) :
    (allOfNodes parent before ms).filter test = [] := by
  have hnil := filter_allOfNodes_append parent before [] h
  rw [List.append_nil] at hnil
  rw [hnil, allOfNodes, List.filter_nil]

mutual

theorem filter_allOfNode_enrich {test : Place → Bool}
    (hf : ∀ q : Place, q.AddedInFront x → test q = false)
    (hb : ∀ q : Place, q.AddedBehind x → test q = false) (parent : Place)
    (before after : List Node) : (n : Node) →
      (allOfNode (parent.enrich x) (Node.enrichAll x before ++ (parent.front x).reverse)
          (Node.enrichAll x after ++ parent.back x) (n.enrich x)).filter test =
        ((allOfNode parent before after n).filter fun q => test (q.enrich x)).map (enrich x)
  | .element id name attributes children => by
    let p : Place := .inside parent before id name attributes children after
    have hchildren := filter_allOfNodes_enrich hf hb p [] children
    simp only [Node.enrichAll, List.nil_append] at hchildren
    -- the nodes in front of the children pass no test, so it is the children that are searched
    have hskip := filter_allOfNodes_append (p.enrich x) []
      (Node.enrichAll x children ++ p.back x) fun q hq => hf q (addedInFront_of_mem (p := p) hq)
    rw [List.append_nil, hchildren] at hskip
    rw [Node.enrich, allOfNode, allOfNode]
    show (p.enrich x :: allOfNodes (p.enrich x) []
      (p.front x ++ (Node.enrichAll x children ++ p.back x))).filter test =
        ((p :: allOfNodes p [] children).filter fun q => test (q.enrich x)).map (enrich x)
    rw [List.filter_cons, List.filter_cons, hskip]
    split <;> rfl
  | .text _ => by
    simp only [Node.enrich, allOfNode, List.filter_nil, List.map_nil]
  | .aside _ _ => by
    simp only [Node.enrich, allOfNode, List.filter_nil, List.map_nil]

theorem filter_allOfNodes_enrich {test : Place → Bool}
    (hf : ∀ q : Place, q.AddedInFront x → test q = false)
    (hb : ∀ q : Place, q.AddedBehind x → test q = false) (parent : Place)
    (before : List Node) : (ns : List Node) →
      (allOfNodes (parent.enrich x) (Node.enrichAll x before ++ (parent.front x).reverse)
          (Node.enrichAll x ns ++ parent.back x)).filter test =
        ((allOfNodes parent before ns).filter fun q => test (q.enrich x)).map (enrich x)
  | [] => by
    rw [Node.enrichAll, List.nil_append, allOfNodes, List.filter_nil, List.map_nil]
    exact filter_allOfNodes_eq_nil _ _ fun q hq => hb q (addedBehind_of_mem hq)
  | n :: ns => by
    have hn := filter_allOfNode_enrich hf hb parent before ns n
    have hns := filter_allOfNodes_enrich hf hb parent (n :: before) ns
    simp only [Node.enrichAll, List.cons_append] at hns
    simp only [Node.enrichAll, List.cons_append, allOfNodes, List.filter_append, List.map_append,
      hn, hns]

end

/-- If no added element passes a test, the places inside that pass it are the same. -/
theorem filter_descendants_enrich {test : Place → Bool}
    (hf : ∀ q : Place, q.AddedInFront x → test q = false)
    (hb : ∀ q : Place, q.AddedBehind x → test q = false) (p : Place) :
    (p.enrich x).descendants.filter test =
      (p.descendants.filter fun q => test (q.enrich x)).map (enrich x) := by
  have hskip := filter_allOfNodes_append (p.enrich x) []
    (Node.enrichAll x p.contents ++ p.back x) fun q hq => hf q (addedInFront_of_mem (p := p) hq)
  have h := filter_allOfNodes_enrich hf hb p [] p.contents
  simp only [Node.enrichAll, List.nil_append] at h
  rw [List.append_nil, h] at hskip
  unfold descendants
  rw [contents_enrich]
  exact hskip

/-! ## Siblings -/

theorem mem_elementsAll_of_mem_ofNodesBefore {parent : Place} {before after : List Node} {q : Place}
    (h : q ∈ ofNodesBefore parent before after) : q.element ∈ Node.elementsAll before := by
  induction before generalizing after with
  | nil => exact absurd h List.not_mem_nil
  | cons n before ih =>
    rw [Node.elementsAll_cons, List.mem_append]
    cases n with
    | element id name attributes children =>
      rcases List.mem_cons.1 h with rfl | h
      · exact Or.inl List.mem_cons_self
      · exact Or.inr (ih h)
    | text content => exact Or.inr (ih h)
    | aside kind content => exact Or.inr (ih h)

theorem ofNodes_append (parent : Place) (before ms ns : List Node) :
    ∃ places, ofNodes parent before (ms ++ ns) =
        places ++ ofNodes parent (ms.reverse ++ before) ns ∧
      ∀ q ∈ places, q.element ∈ Node.elementsAll ms := by
  induction ms generalizing before with
  | nil => exact ⟨[], rfl, fun q hq => absurd hq List.not_mem_nil⟩
  | cons m ms ih =>
    rcases ih (m :: before) with ⟨places, hplaces, hmem⟩
    rw [List.reverse_cons, List.append_assoc, List.singleton_append]
    have hlater : ∀ q ∈ places, q.element ∈ Node.elementsAll (m :: ms) := by
      intro q hq
      rw [Node.elementsAll_cons]
      exact List.mem_append_right _ (hmem q hq)
    cases m with
    | element id name attributes children =>
      refine ⟨.inside parent before id name attributes children (ms ++ ns) :: places, ?_, ?_⟩
      · rw [List.cons_append, ofNodes, hplaces, List.cons_append]
      · intro q hq
        rcases List.mem_cons.1 hq with rfl | hq
        · exact List.mem_cons_self
        · exact hlater q hq
    | text content => exact ⟨places, hplaces, hlater⟩
    | aside kind content => exact ⟨places, hplaces, hlater⟩

theorem ofNodes_enrich (parent : Place) (before ns : List Node) :
    ∃ added, ofNodes (parent.enrich x) (Node.enrichAll x before ++ (parent.front x).reverse)
        (Node.enrichAll x ns ++ parent.back x) =
          (ofNodes parent before ns).map (enrich x) ++ added ∧
      ∀ q ∈ added, q.AddedBehind x := by
  induction ns generalizing before with
  | nil =>
    rw [Node.enrichAll, List.nil_append]
    exact ⟨_, rfl, fun q hq => addedBehind_of_mem (mem_elementsAll_of_mem_ofNodes hq)⟩
  | cons n ns ih =>
    rcases ih (n :: before) with ⟨added, hadded, hmem⟩
    refine ⟨added, ?_, hmem⟩
    cases n with
    | element id name attributes children => exact congrArg (List.cons _) hadded
    | text content => exact hadded
    | aside kind content => exact hadded

theorem ofNodesBefore_enrich (parent : Place) (before after : List Node) :
    ∃ added, ofNodesBefore (parent.enrich x) (Node.enrichAll x before ++ (parent.front x).reverse)
        (Node.enrichAll x after ++ parent.back x) =
          (ofNodesBefore parent before after).map (enrich x) ++ added ∧
      ∀ q ∈ added, q.AddedInFront x := by
  induction before generalizing after with
  | nil =>
    rw [Node.enrichAll, List.nil_append]
    refine ⟨_, rfl, fun q hq => addedInFront_of_mem (p := parent) ?_⟩
    rcases Node.mem_elementsAll.1 (mem_elementsAll_of_mem_ofNodesBefore hq) with ⟨n, hn, he⟩
    exact Node.mem_elementsAll.2 ⟨n, List.mem_reverse.1 hn, he⟩
  | cons n before ih =>
    rcases ih (n :: after) with ⟨added, hadded, hmem⟩
    refine ⟨added, ?_, hmem⟩
    cases n with
    | element id name attributes children => exact congrArg (List.cons _) hadded
    | text content => exact hadded
    | aside kind content => exact hadded

/-- The siblings after an element are those it had, and behind them some that have been added. -/
theorem later_enrich (p : Place) :
    ∃ added, (p.enrich x).later = p.later.map (enrich x) ++ added ∧
      ∀ q ∈ added, q.AddedBehind x := by
  cases p with
  | page nodes => exact ⟨[], rfl, fun q hq => absurd hq List.not_mem_nil⟩
  | inside parent before id name attributes children after =>
    exact ofNodes_enrich parent (.element id name attributes children :: before) after

/-- The siblings before an element are those it had, and before them some that have been added. -/
theorem earlier_enrich (p : Place) :
    ∃ added, (p.enrich x).earlier = p.earlier.map (enrich x) ++ added ∧
      ∀ q ∈ added, q.AddedInFront x := by
  cases p with
  | page nodes => exact ⟨[], rfl, fun q hq => absurd hq List.not_mem_nil⟩
  | inside parent before id name attributes children after =>
    exact ofNodesBefore_enrich parent before (.element id name attributes children :: after)

/-- The children are those that were there, and around them some that have been added. -/
theorem children_enrich (p : Place) :
    ∃ first last, (p.enrich x).children = first ++ (p.children.map (enrich x) ++ last) ∧
      (∀ q ∈ first, q.AddedInFront x) ∧ ∀ q ∈ last, q.AddedBehind x := by
  unfold children
  rw [contents_enrich]
  rcases ofNodes_append (p.enrich x) [] (p.front x) (Node.enrichAll x p.contents ++ p.back x) with
    ⟨first, hfirst, hmem⟩
  rcases ofNodes_enrich (x := x) p [] p.contents with ⟨last, hlast, hlastmem⟩
  rw [Node.enrichAll, List.nil_append] at hlast
  rw [List.append_nil, hlast] at hfirst
  exact ⟨first, last, hfirst, fun q hq => addedInFront_of_mem (hmem q hq), hlastmem⟩

end Place

end GeneratedContent.Html
