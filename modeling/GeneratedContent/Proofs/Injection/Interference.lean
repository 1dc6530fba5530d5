import GeneratedContent.Proofs.Injection.Layout
import GeneratedContent.Proofs.Selector.Overlooking

/-!
# Rules in the page that other rules have left

Each rule selects in a page with the markers of the rules before it. If its selector overlooks those
markers, it finds the elements that it finds in the page without any (`Page.targets_rounds`). A
selector that counts all siblings does not: behind the marker of an earlier rule a first child is no
first child any more (`Page.not_targets_rounds`).

How elements are selected is left open but for the selectors that can be read here. Whoever selects may
understand more of them, and of these nothing is said.
-/

namespace GeneratedContent

open Html

/-- Whether a way to select gives elements of the page, and gives the elements that match a selector where
one can be read. -/
structure SelectsAsRead (select? : Text → Page → Option (List Place)) : Prop where
  /-- Distinct elements of the page are selected. -/
  elements : SelectsElements select?
  /-- What matches a selector that can be read is selected, in document order. -/
  matching : ∀ (selector : Text) (p : Page) (s : Selector),
    Selector.read? selector = some s → select? selector p = some (p.matching s)

theorem selectsAsRead_matching? : SelectsAsRead Page.matching? where
  elements := selectsElements_matching?
  matching := by
    intro selector p s hs
    rw [Page.matching?, hs]
    rfl

/-- Whether markers of some placements make no difference to what a rule applies to: they make none to its
selector, which can be read, or nothing is ever selected with it. Then the rule goes by the name of
elements, which markers do not change. -/
def Rule.Overlooks (select? : Text → Page → Option (List Place)) (settings : Settings)
    (placements : List Placement) (r : Rule) : Prop :=
  (Selector.read? r.selector).any (Complex.allOverlook settings placements) = true ∨
    ∀ p, select? r.selector p = none

/-- Insertions add the markers of their rules. -/
theorem areMarkers_additions (settings : Settings) {placements : List Placement}
    {log : List Insertion} (h : ∀ y ∈ log, y.rule.placement ∈ placements) :
    (additions settings log).AreMarkers settings placements where
  front := by
    intro i n hn
    simp only [additions, List.mem_reverse, List.mem_map, List.mem_filter, decide_eq_true_eq] at hn
    rcases hn with ⟨y, ⟨hy, -, hplacement⟩, rfl⟩
    exact ⟨hplacement ▸ h y hy, _, y.number, congrArg Placement.name hplacement, rfl⟩
  back := by
    intro i n hn
    simp only [additions, List.mem_map, List.mem_filter, decide_eq_true_eq] at hn
    rcases hn with ⟨y, ⟨hy, -, hplacement⟩, rfl⟩
    exact ⟨hplacement ▸ h y hy, _, y.number, congrArg Placement.name hplacement, rfl⟩
  attributes := beyondStyle_additions settings log
  unchanged := by
    intro hnone i a
    apply additions_of_ne
    intro y hy
    exact absurd (h y hy) (hnone ▸ List.not_mem_nil)

section Targets

variable {x : Additions} {settings : Settings} {placements : List Placement}

theorem Marker.marks_of_beyondStyle_eq {a b : Attributes} (h : a.beyondStyle = b.beyondStyle) :
    marks a = marks b := by
  have hsign : sign ≠ styleAttribute := by decide
  unfold marks OrderedMap.contains
  rw [← OrderedMap.get?_erase_of_ne a styleAttribute hsign,
    ← OrderedMap.get?_erase_of_ne b styleAttribute hsign]
  exact congrArg (fun c => (OrderedMap.get? c sign).isSome) h

/-- The elements of a page with markers that pass a test and are no markers are those of the page
without them, if the test comes out the same for both. -/
theorem Html.unmarked_filter_enrich (hx : x.AreMarkers settings placements) {test : Place → Bool}
    (h : ∀ q : Place, test (q.enrich x) = test q) (p : Place) :
    unmarked ((p.enrich x).descendants.filter test) =
      (unmarked (p.descendants.filter test)).map (Place.enrich x) := by
  have hmarker : ∀ {q : Place} {placement : Placement}, q.MarkerOf settings placement →
      (!Marker.marks q.attributes && test q) = false := by
    intro q placement hq
    rcases hq.attributes with ⟨m, -, hattributes⟩
    rw [hattributes, Marker.marks_attributes, Bool.not_true, Bool.false_and]
  have hsame : ∀ q : Place, (!Marker.marks (q.enrich x).attributes && test (q.enrich x)) =
      (!Marker.marks q.attributes && test q) := by
    intro q
    rw [Marker.marks_of_beyondStyle_eq (hx.beyondStyle_enrich q), h q]
  unfold unmarked
  rw [List.filter_filter, List.filter_filter,
    Place.filter_descendants_enrich (fun q hq => hmarker (hx.markerOf_of_addedInFront hq).2)
      (fun q hq => hmarker (hx.markerOf_of_addedBehind hq).2) p]
  simp only [hsame]

/-- A rule that overlooks the markers of a page applies to the elements that it applies to in the page
without them, in the same order. -/
theorem Rule.targetsBy_enrich {select? : Text → Page → Option (List Place)}
    (hselect : SelectsAsRead select?) {r : Rule} (hr : r.Overlooks select? settings placements)
    (hx : x.AreMarkers settings placements) {t p : Page} (hp : p.nodes = Node.enrichAll x t.nodes) :
    r.targetsBy select? p = (r.targetsBy select? t).map (Place.enrich x) := by
  have hplace : p.place = t.place.enrich x := congrArg Place.page hp
  rcases hr with hread | hnone
  · obtain ⟨s, hs, hoverlooks⟩ := (Option.any_eq_true ..).mp hread
    simp only [targetsBy, hselect.matching _ _ s hs, Page.matching, hplace]
    exact unmarked_filter_enrich hx (Complex.anyHolds_enrich hx s hoverlooks) t.place
  · simp only [targetsBy, hnone]
    split
    · simp only [Page.selectNamed, Page.named, hplace]
      apply unmarked_filter_enrich hx
      intro q
      rw [Place.name_enrich]
    · rfl

end Targets

/-- The rounds of rules and more rules are those of the former, and those of the latter in the page
that the former leave. -/
theorem Html.Page.rounds_append (find : Rule → Page → List Place) (settings : Settings) (p : Page)
    (earlier later : List Rule) :
    p.rounds find settings (earlier ++ later) = p.rounds find settings earlier ++
      (earlier.foldl (fun p r => r.carryOut settings p (find r p)) p).rounds find settings later := by
  induction earlier generalizing p with
  | nil => rfl
  | cons r earlier ih => rw [List.cons_append, rounds, ih, List.foldl_cons, rounds, List.cons_append]

/-- There is one round for each rule. -/
theorem Html.Page.map_fst_rounds (find : Rule → Page → List Place) (settings : Settings) (p : Page)
    (rules : List Rule) : (p.rounds find settings rules).map Prod.fst = rules := by
  induction rules generalizing p with
  | nil => rfl
  | cons r rules ih => rw [rounds, List.map_cons, ih]

/-- All insertions are of the rules that are carried out. -/
theorem rule_mem_of_mem_insertions {find : Rule → Page → List Place} {settings : Settings} {p : Page}
    {rules : List Rule} {number : Nat} {y : Insertion}
    (hy : y ∈ insertions number (p.rounds find settings rules)) : y.rule ∈ rules := by
  have hpair := List.mem_map_of_mem (f := fun y => (y.rule, y.target)) hy
  rw [map_target_insertions, List.mem_flatMap] at hpair
  rcases hpair with ⟨round, hround, hpair⟩
  rcases List.mem_map.1 hpair with ⟨q, -, hq⟩
  have hrule : round.1 = y.rule := congrArg Prod.fst hq
  have hmem := List.mem_map_of_mem (f := Prod.fst) hround
  rwa [Page.map_fst_rounds, hrule] at hmem

end GeneratedContent
