import GeneratedContent.Proofs.Html.Numbering
import GeneratedContent.Proofs.Injection.Insertion

/-!
# Layout of a page with generated content

However the elements for a rule are selected, a page in which rules have been carried out is laid out
in one way (`LaidOut`): the elements of the page without its old markers are all there, each with the
markers of its rules around what it held before, and nothing else has changed but styles.
-/

namespace GeneratedContent

open Html

/-! ## Selecting elements -/

/-- The elements of a page that a rule applies to, when it is left open which elements match a
selector, if the selector states anything. -/
def Rule.targetsBy (select? : Text → Page → Option (List Place)) (r : Rule) (p : Page) :
    List Place :=
  match select? r.selector p with
  | some places => unmarked places
  | none =>
    match Owner.lastTag? r.selector with
    | some tag => p.selectNamed tag
    | none => []

/-- Whether selecting gives distinct elements of the page. -/
def SelectsElements (select? : Text → Page → Option (List Place)) : Prop :=
  ∀ (selector : Text) (p : Page) (places : List Place), p.WellNumbered →
    select? selector p = some places → places.Nodup ∧ ∀ q ∈ places, q ∈ p.place.descendants

/-- The elements that match the selector that a text states, markers among them. -/
def Html.Page.matching? (selector : Text) (p : Page) : Option (List Place) :=
  (Selector.read? selector).map p.matching

/-- Rules find their targets by matching their selectors. -/
theorem Rule.targets_eq (r : Rule) (p : Page) : r.targets p = r.targetsBy Page.matching? p := by
  unfold targets targetsBy Page.select? Page.matching?
  cases Selector.read? r.selector <;> rfl

/-- The elements among places that a rule applies to. -/
def Rule.targetsAmong (r : Rule) (places : List Place) : List Place :=
  match Selector.read? r.selector with
  | some s => unmarked (places.filter fun q => Complex.anyHolds s q)
  | none =>
    match Owner.lastTag? r.selector with
    | some tag => unmarked (places.filter fun q => q.name = tag)
    | none => []

theorem Rule.targets_eq_targetsAmong (r : Rule) (p : Page) :
    r.targets p = r.targetsAmong p.place.descendants := by
  unfold targets targetsAmong Page.select?
  cases Selector.read? r.selector <;> rfl

theorem Html.Page.WellNumbered.nodup_descendants {p : Page} (hp : p.WellNumbered) :
    p.place.descendants.Nodup := by
  have hids : (p.place.descendants.map Place.id).Nodup := by
    rw [Place.map_id_descendants]
    exact hp.nodup
  exact hids.of_map

theorem selectsElements_matching? : SelectsElements Page.matching? := by
  intro selector p places hp h
  rcases Option.map_eq_some_iff.1 h with ⟨s, -, rfl⟩
  constructor
  · exact hp.nodup_descendants.filter _
  · intro q hq
    exact List.mem_of_mem_filter hq

theorem SelectsElements.findsElements {select? : Text → Page → Option (List Place)}
    (h : SelectsElements select?) : FindsElements (Rule.targetsBy select?) := by
  intro r p hp
  -- whatever is selected, markers are left out of it
  have hunmarked : ∀ places : List Place, places.Nodup → (∀ q ∈ places, q ∈ p.place.descendants) →
      (unmarked places).Nodup ∧ ∀ q ∈ unmarked places,
        q ∈ p.place.descendants ∧ Marker.marks q.attributes = false := by
    intro places hnodup hplaces
    constructor
    · exact hnodup.filter _
    · intro q hq
      rcases List.mem_filter.1 hq with ⟨hq, hmarks⟩
      exact ⟨hplaces q hq, by simpa using hmarks⟩
  unfold Rule.targetsBy
  split
  · rename_i places hselect
    rcases h r.selector p places hp hselect with ⟨hnodup, hplaces⟩
    exact hunmarked places hnodup hplaces
  · split
    · apply hunmarked
      · exact hp.nodup_descendants.filter _
      · intro q hq
        exact List.mem_of_mem_filter hq
    · exact ⟨List.nodup_nil, fun q hq => absurd hq List.not_mem_nil⟩

/-- Rules find elements of the page, each once, and no markers. -/
theorem findsElements_targets : FindsElements Rule.targets := by
  have htargets : Rule.targets = Rule.targetsBy Page.matching? := by
    funext r p
    exact r.targets_eq p
  rw [htargets]
  exact selectsElements_matching?.findsElements

/-! ## The layout -/

/-- An element as a node. -/
def Html.Element.node (e : Element) : Node := .element e.id e.name e.attributes e.contents

/-- How a page looks after rules have been carried out in a page without markers, by the rules with
their targets in order. -/
structure LaidOut (settings : Settings) (t : Page) (rounds : List (Rule × List Place)) (p : Page) :
    Prop where
  /-- Every element is still there, with its name and with what it held, in order; before that stand
  the markers of the `before` rules for it, those of later rules first, and behind it the markers of
  the `after` rules for it, in the order of the rules. -/
  nodes : p.nodes = Node.enrichAll (additions settings (insertions t.nextId rounds)) t.nodes
  /-- There is one insertion for each rule and each of its targets. -/
  pairs : (insertions t.nextId rounds).map (fun x => (x.rule, x.target)) =
    rounds.flatMap fun x => x.2.map fun q => (x.1, q)
  /-- The markers of the page are those of the insertions, each once. -/
  markers : (p.markers.map fun q => q.element.node).Perm
    ((insertions t.nextId rounds).map (Insertion.marker settings))
  /-- A marker holds one text or nothing. -/
  texts : ∀ q ∈ p.markers, q.contents = [] ∨ ∃ content, q.contents = [.text content]
  /-- No two elements of the page have the same number. -/
  numbers : p.WellNumbered
  /-- No element is targeted that is a marker, or new, or inside a marker. -/
  targets : ∀ x ∈ rounds, ∀ q ∈ x.2, q.id ∈ Node.ids t.nodes ∧
    Marker.marks q.attributes = false ∧ ∀ a ∈ q.ancestors, Marker.marks a.attributes = false
  /-- Attributes other than the style stay as they are. -/
  attributes : ∀ i a,
    ((additions settings (insertions t.nextId rounds)).attributes i a).beyondStyle = a.beyondStyle
  /-- The style stays as it is where no rule applies. -/
  untouched : ∀ i a, (∀ x ∈ rounds, ∀ q ∈ x.2, q.id ≠ i) →
    (additions settings (insertions t.nextId rounds)).attributes i a = a

theorem Insertion.map_node_elements_marker (settings : Settings) (x : Insertion) :
    (x.marker settings).elements.map Element.node = [x.marker settings] := by
  rw [Insertion.marker, Marker.elements_node]
  rfl

namespace Html.Page.Reached

variable {settings : Settings} {t p : Page} {log : List Insertion}

/-- The markers of a page that insertions have led to are those of the insertions. -/
theorem perm_markers (ht : t.Plain) (h : Reached settings t log p) :
    (p.markers.map Place.element).Perm (log.flatMap fun x => (x.marker settings).elements) := by
  have hmarkers : p.markers.map Place.element =
      (Node.elementsAll p.nodes).filter fun e => Marker.marks e.attributes := by
    have hmap := Place.map_element_descendants p.place
    rw [show p.nodes = p.place.contents from rfl, ← hmap, List.filter_map]
    rfl
  -- no element of the page before is a marker, and all others are
  have hold : ((Node.elementsAll t.nodes).map (Element.enrich (additions settings log))).filter
      (fun e => Marker.marks e.attributes) = [] := by
    rw [List.filter_eq_nil_iff]
    intro e he
    rcases List.mem_map.1 he with ⟨d, hd, rfl⟩
    have hmarks := marks_additions settings log d.id d.attributes
    rw [ht.unmarked d hd] at hmarks
    exact Bool.eq_false_iff.1 hmarks
  have hnew : (log.flatMap fun x => (x.marker settings).elements).filter
      (fun e => Marker.marks e.attributes) =
        log.flatMap fun x => (x.marker settings).elements := by
    rw [List.filter_eq_self]
    intro e he
    rcases List.mem_flatMap.1 he with ⟨x, -, he⟩
    exact (Insertion.of_mem_elements_marker he).2.1
  have hperm := (h.perm_elements ht).filter fun e => Marker.marks e.attributes
  rw [List.filter_append, hold, hnew, List.nil_append] at hperm
  rw [hmarkers]
  exact hperm

end Html.Page.Reached

theorem additions_of_ne (settings : Settings) {log : List Insertion} {i : Nat}
    (h : ∀ x ∈ log, x.target.id ≠ i) (a : Attributes) :
    (additions settings log).attributes i a = a := by
  have hnone : (log.filter fun x => x.target.id = i) = [] := by
    rw [List.filter_eq_nil_iff]
    intro x hx
    simpa using h x hx
  simp only [additions, hnone, List.foldl_nil]

/-- Carrying out rules in a page lays it out, whatever way to select elements is taken. -/
theorem Html.Page.laidOut_injectBy {select? : Text → Page → Option (List Place)}
    (hselect : SelectsElements select?) (settings : Settings) (rules : List Rule) {p : Page}
    (hp : p.WellNumbered) :
    LaidOut settings p.withoutMarkers
      (p.withoutMarkers.rounds (Rule.targetsBy select?) settings rules)
      (p.injectBy (Rule.targetsBy select?) settings rules) := by
  have ht := hp.plain_withoutMarkers
  have hfind := hselect.findsElements
  have hstart := Reached.start settings p.withoutMarkers
  have h := hstart.run hfind ht rules
  rw [List.nil_append] at h
  have hmarkers := h.perm_markers ht
  constructor
  case nodes => exact h.nodes
  case pairs => exact map_target_insertions _ _
  case markers =>
    have hnodes := hmarkers.map Element.node
    rw [List.map_map, List.map_flatMap] at hnodes
    simp only [Insertion.map_node_elements_marker] at hnodes
    rw [← List.map_eq_flatMap] at hnodes
    exact hnodes
  case texts =>
    intro q hq
    have hmem := hmarkers.mem_iff.1 (List.mem_map_of_mem hq)
    rcases List.mem_flatMap.1 hmem with ⟨x, -, hx⟩
    exact (Insertion.of_mem_elements_marker hx).2.2
  case numbers => exact h.wellNumbered ht
  case targets =>
    intro x hx q hq
    -- the page that the rule was carried out in was reached by insertions too
    rcases hstart.of_mem_rounds hfind ht hx with ⟨log, p', h', hfound⟩
    rw [hfound] at hq
    rcases (hfind x.1 p' (h'.wellNumbered ht)).2 q hq with ⟨hmem, hmarks⟩
    refine ⟨(h'.upToDate ht hmem hmarks).mem, hmarks, ?_⟩
    intro a ha
    exact h'.marks_ancestors ht hmem ha
  case attributes => exact beyondStyle_additions settings _
  case untouched =>
    intro i a hne
    apply additions_of_ne
    intro x hx
    rcases exists_round_of_mem_insertions hx with ⟨round, hround, hq⟩
    exact hne round hround x.target hq

/-- A paragraph with something before and something after its content. -/
theorem Html.Page.laidOut_paragraph :
    let p := Page.read "<p>a</p>".toList
    let rules : List Rule := [
      { selector := "p".toList, placement := .before, content := .literal "x".toList },
      { selector := "p:first-child".toList, placement := .after, content := .empty }]
    SelectsElements Page.matching? ∧ p.WellNumbered ∧
      LaidOut {} p.withoutMarkers
        (p.withoutMarkers.rounds (Rule.targetsBy Page.matching?) {} rules)
        (p.injectBy (Rule.targetsBy Page.matching?) {} rules) := by
  intro p rules
  have hp : p.WellNumbered := Page.wellNumbered_read _
  exact ⟨selectsElements_matching?, hp, Page.laidOut_injectBy selectsElements_matching? {} rules hp⟩

end GeneratedContent
