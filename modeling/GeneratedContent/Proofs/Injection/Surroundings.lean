import GeneratedContent.Proofs.Html.Enriched
import GeneratedContent.Proofs.Selector.Verdict

/-!
# What is around an element in a page with markers

Markers stand at the two ends of what elements hold. So from an element of the page the markers of one
placement are seen before all its siblings, those of the other one behind them, and both inside it. A
test that no marker in sight passes finds the same elements as in the page without markers
(`any_reached_enrich`, `any_reachedBack_enrich`, `filter_counted_enrich`).
-/

namespace GeneratedContent

open Html

/-- The placements among some of the markers that stand on one side: those behind at the end. -/
def Placement.onSide (placements : List Placement) (atEnd : Bool) : List Placement :=
  placements.filter (· = if atEnd then .after else .before)

namespace Combinator

/-- The placements among some of the markers that a combinator may be followed back to. -/
def markersBack (placements : List Placement) : Combinator → List Placement
  | .descendant => []
  | .child => []
  | .next => Placement.onSide placements false
  | .later => Placement.onSide placements false

/-- The placements among some of the markers that a combinator may lead to. -/
def markersAhead (placements : List Placement) : Combinator → List Placement
  | .descendant => placements
  | .child => placements
  | .next => Placement.onSide placements true
  | .later => Placement.onSide placements true

end Combinator

/-! ## Pages with markers -/

/-- Whether additions are markers of some placements, with changes of styles. -/
structure Html.Additions.AreMarkers (x : Additions) (settings : Settings)
    (placements : List Placement) : Prop where
  /-- In front stand markers for it. -/
  front : ∀ i, ∀ n ∈ x.front i, Placement.before ∈ placements ∧
    ∃ (m : Marker) (number : Nat), m.label = Placement.before.name ∧ n = m.node settings number
  /-- Behind stand markers for it. -/
  back : ∀ i, ∀ n ∈ x.back i, Placement.after ∈ placements ∧
    ∃ (m : Marker) (number : Nat), m.label = Placement.after.name ∧ n = m.node settings number
  /-- Attributes other than the style stay as they are. -/
  attributes : ∀ i a, (x.attributes i a).beyondStyle = a.beyondStyle
  /-- Where there are no markers, styles stay as they are. -/
  unchanged : placements = [] → ∀ i a, x.attributes i a = a

section Pages

variable {x : Additions} {settings : Settings} {placements : List Placement}

namespace Html.Additions.AreMarkers

theorem markerOf_of_mem {ns : List Node} {placement : Placement} {q : Place}
    (hns : ∀ n ∈ ns, placement ∈ placements ∧ ∃ (m : Marker) (number : Nat),
      m.label = placement.name ∧ n = m.node settings number)
    (hq : q.element ∈ Node.elementsAll ns) :
    placement ∈ placements ∧ q.MarkerOf settings placement := by
  rcases Node.mem_elementsAll.1 hq with ⟨n, hn, he⟩
  rcases hns n hn with ⟨hmem, m, number, hlabel, rfl⟩
  rw [Marker.elements_node, List.mem_singleton] at he
  refine ⟨hmem, congrArg Element.name he, ⟨m, hlabel, congrArg Element.attributes he⟩, ?_⟩
  show Node.elementsAll q.element.contents = []
  rw [he]
  split <;> simp

theorem markerOf_of_addedInFront (hx : x.AreMarkers settings placements) {q : Place}
    (hq : q.AddedInFront x) :
    Placement.before ∈ placements ∧ q.MarkerOf settings .before := by
  rcases hq with ⟨i, hi⟩
  exact markerOf_of_mem (hx.front i) hi

theorem markerOf_of_addedBehind (hx : x.AreMarkers settings placements) {q : Place}
    (hq : q.AddedBehind x) : Placement.after ∈ placements ∧ q.MarkerOf settings .after := by
  rcases hq with ⟨i, hi⟩
  exact markerOf_of_mem (hx.back i) hi

theorem beyondStyle_enrich (hx : x.AreMarkers settings placements) (p : Place) :
    (p.enrich x).attributes.beyondStyle = p.attributes.beyondStyle := by
  cases p with
  | page nodes => rfl
  | inside parent before id name attributes children after => exact hx.attributes id attributes

theorem attributes_enrich (hx : x.AreMarkers settings []) (p : Place) :
    (p.enrich x).attributes = p.attributes := by
  cases p with
  | page nodes => rfl
  | inside parent before id name attributes children after => exact hx.unchanged rfl id attributes

theorem contents_enrich (hx : x.AreMarkers settings []) (p : Place) :
    (p.enrich x).contents = Node.enrichAll x p.contents := by
  have hfront : ∀ i, x.front i = [] := fun i =>
    List.eq_nil_iff_forall_not_mem.2 fun n hn => List.not_mem_nil (hx.front i n hn).1
  have hback : ∀ i, x.back i = [] := fun i =>
    List.eq_nil_iff_forall_not_mem.2 fun n hn => List.not_mem_nil (hx.back i n hn).1
  cases p with
  | page nodes => rfl
  | inside parent before id name attributes children after =>
    show x.front id ++ (Node.enrichAll x children ++ x.back id) = Node.enrichAll x children
    rw [hfront, hback, List.nil_append, List.append_nil]

end Html.Additions.AreMarkers

namespace Html.Place

theorem loweredName_enrich (p : Place) : (p.enrich x).loweredName = p.loweredName := by
  unfold loweredName
  rw [name_enrich]

theorem any_enrichAll {test : Node → Bool} (h : ∀ n : Node, test (n.enrich x) = test n)
    (ns : List Node) : (Node.enrichAll x ns).any test = ns.any test := by
  induction ns with
  | nil => simp only [Node.enrichAll]
  | cons n ns ih => simp only [Node.enrichAll, List.any_cons, h, ih]

theorem isContent_enrich (n : Node) : isContent (n.enrich x) = isContent n := by
  cases n <;> simp [Node.enrich, isContent]

theorem deniesRoot_enrich (n : Node) : deniesRoot (n.enrich x) = deniesRoot n := by
  cases n <;> simp [Node.enrich, deniesRoot]

theorem isRoot_enrich (p : Place) : (p.enrich x).isRoot = p.isRoot := by
  cases p with
  | page nodes => rfl
  | inside parent before id name attributes children after =>
    -- only an element right inside the page may be its root, and there nothing is added
    cases parent with
    | page nodes =>
      show (!(Node.enrichAll x before ++ []).any deniesRoot &&
        !(Node.enrichAll x after ++ []).any deniesRoot) = _
      rw [List.append_nil, List.append_nil, any_enrichAll deniesRoot_enrich,
        any_enrichAll deniesRoot_enrich]
      rfl
    | inside _ _ _ _ _ _ _ => rfl

/-! ## Tests that no marker passes -/

variable {test : Place → Bool}

/-- Whether no marker of some placements passes a test. -/
def FailsMarkers (settings : Settings) (placements : List Placement) (test : Place → Bool) : Prop :=
  ∀ placement ∈ placements, ∀ q : Place, q.MarkerOf settings placement → test q = false

theorem test_of_addedInFront (hx : x.AreMarkers settings placements)
    (h : FailsMarkers settings (Placement.onSide placements false) test) {q : Place}
    (hq : q.AddedInFront x) : test q = false := by
  rcases hx.markerOf_of_addedInFront hq with ⟨hmem, hmarker⟩
  exact h .before (List.mem_filter.2 ⟨hmem, rfl⟩) q hmarker

theorem test_of_addedBehind (hx : x.AreMarkers settings placements)
    (h : FailsMarkers settings (Placement.onSide placements true) test) {q : Place}
    (hq : q.AddedBehind x) : test q = false := by
  rcases hx.markerOf_of_addedBehind hq with ⟨hmem, hmarker⟩
  exact h .after (List.mem_filter.2 ⟨hmem, rfl⟩) q hmarker

theorem FailsMarkers.onSide (h : FailsMarkers settings placements test) (atEnd : Bool) :
    FailsMarkers settings (Placement.onSide placements atEnd) test := fun placement hmem =>
  h placement (List.mem_of_mem_filter hmem)

theorem filter_map_enrich_append {added : List Place} (h : ∀ q ∈ added, test q = false)
    (places : List Place) :
    (places.map (enrich x) ++ added).filter test =
      (places.filter fun q => test (q.enrich x)).map (enrich x) := by
  have hadded : added.filter test = [] :=
    List.filter_eq_nil_iff.2 fun q hq => Bool.eq_false_iff.1 (h q hq)
  rw [List.filter_append, hadded, List.append_nil, List.filter_map]
  rfl

/-- Among the siblings that a position counts, those that pass a test which no marker there passes are
the same. -/
theorem filter_counted_enrich (hx : x.AreMarkers settings placements) (p : Place) (fromEnd : Bool)
    (h : FailsMarkers settings (Placement.onSide placements fromEnd) test) :
    ((p.enrich x).counted fromEnd).filter test =
      ((p.counted fromEnd).filter fun q => test (q.enrich x)).map (enrich x) := by
  cases fromEnd with
  | false =>
    rcases p.earlier_enrich (x := x) with ⟨added, hearlier, hadded⟩
    show (p.enrich x).earlier.filter test = _
    rw [hearlier]
    exact filter_map_enrich_append (fun q hq => test_of_addedInFront hx h (hadded q hq)) p.earlier
  | true =>
    rcases p.later_enrich (x := x) with ⟨added, hlater, hadded⟩
    show (p.enrich x).later.filter test = _
    rw [hlater]
    exact filter_map_enrich_append (fun q hq => test_of_addedBehind hx h (hadded q hq)) p.later

theorem any_eq_of_filter_eq {places places' : List Place} {test' : Place → Bool}
    (h : places.filter test = (places'.filter test').map (enrich x)) :
    places.any test = places'.any test' := by
  have hnil : places.filter test = [] ↔ places'.filter test' = [] := by
    rw [h, List.map_eq_nil_iff]
  rw [List.filter_eq_nil_iff, List.filter_eq_nil_iff] at hnil
  rw [Bool.eq_iff_iff, List.any_eq_true, List.any_eq_true]
  constructor
  · rintro ⟨q, hq, htest⟩
    refine Decidable.byContradiction fun hnone => ?_
    exact hnil.2 (fun q' hq' htest' => hnone ⟨q', hq', htest'⟩) q hq htest
  · rintro ⟨q, hq, htest⟩
    refine Decidable.byContradiction fun hnone => ?_
    exact hnil.1 (fun q' hq' htest' => hnone ⟨q', hq', htest'⟩) q hq htest

theorem any_map_enrich_append {added : List Place} (h : ∀ q ∈ added, test q = false)
    (places : List Place) :
    (places.map (enrich x) ++ added).any test = places.any fun q => test (q.enrich x) :=
  any_eq_of_filter_eq (filter_map_enrich_append h places)

/-- The nearest sibling is the same, or there is none but what has been added. -/
theorem any_take_map_enrich_append {added : List Place} (h : ∀ q ∈ added, test q = false)
    (places : List Place) :
    ((places.map (enrich x) ++ added).take 1).any test =
      (places.take 1).any fun q => test (q.enrich x) := by
  cases places with
  | nil =>
    rw [List.map_nil, List.nil_append, List.take_nil, List.any_nil, List.any_eq_false]
    exact fun q hq => Bool.eq_false_iff.1 (h q (List.mem_of_mem_take hq))
  | cons q places => rfl

/-- A combinator leads to an element that passes a test, if no marker there passes it, just when it
does so without the markers. -/
theorem any_reached_enrich (hx : x.AreMarkers settings placements) (p : Place) (c : Combinator)
    (h : FailsMarkers settings (c.markersAhead placements) test) :
    ((p.enrich x).reached c).any test = (p.reached c).any fun q => test (q.enrich x) := by
  cases c with
  | descendant =>
    have hfront : ∀ q : Place, q.AddedInFront x → test q = false := fun q hq =>
      test_of_addedInFront hx (FailsMarkers.onSide h false) hq
    have hback : ∀ q : Place, q.AddedBehind x → test q = false := fun q hq =>
      test_of_addedBehind hx (FailsMarkers.onSide h true) hq
    exact any_eq_of_filter_eq (filter_descendants_enrich hfront hback p)
  | child =>
    rcases p.children_enrich (x := x) with ⟨first, last, hchildren, hfirst, hlast⟩
    have hnone : first.any test = false := List.any_eq_false.2 fun q hq =>
      Bool.eq_false_iff.1 (test_of_addedInFront hx (FailsMarkers.onSide h false) (hfirst q hq))
    show (p.enrich x).children.any test = _
    rw [hchildren, List.any_append, hnone, Bool.false_or]
    exact any_map_enrich_append
      (fun q hq => test_of_addedBehind hx (FailsMarkers.onSide h true) (hlast q hq)) p.children
  | next =>
    rcases p.later_enrich (x := x) with ⟨added, hlater, hadded⟩
    show ((p.enrich x).later.take 1).any test = _
    rw [hlater]
    exact any_take_map_enrich_append (fun q hq => test_of_addedBehind hx h (hadded q hq)) p.later
  | later =>
    rcases p.later_enrich (x := x) with ⟨added, hlater, hadded⟩
    show (p.enrich x).later.any test = _
    rw [hlater]
    exact any_map_enrich_append (fun q hq => test_of_addedBehind hx h (hadded q hq)) p.later

/-- The same for the elements that a combinator is followed back to. -/
theorem any_reachedBack_enrich (hx : x.AreMarkers settings placements) (p : Place) (c : Combinator)
    (h : FailsMarkers settings (c.markersBack placements) test) :
    ((p.enrich x).reachedBack c).any test = (p.reachedBack c).any fun q => test (q.enrich x) := by
  cases c with
  | descendant =>
    show (p.enrich x).ancestors.any test = _
    rw [ancestors_enrich, List.any_map]
    rfl
  | child =>
    show (p.enrich x).parent?.toList.any test = _
    rw [parent?_enrich]
    show _ = p.parent?.toList.any _
    cases p.parent? <;> rfl
  | next =>
    rcases p.earlier_enrich (x := x) with ⟨added, hearlier, hadded⟩
    show ((p.enrich x).earlier.take 1).any test = _
    rw [hearlier]
    exact any_take_map_enrich_append (fun q hq => test_of_addedInFront hx h (hadded q hq)) p.earlier
  | later =>
    rcases p.earlier_enrich (x := x) with ⟨added, hearlier, hadded⟩
    show (p.enrich x).earlier.any test = _
    rw [hearlier]
    exact any_map_enrich_append (fun q hq => test_of_addedInFront hx h (hadded q hq)) p.earlier

end Html.Place

end Pages

end GeneratedContent
