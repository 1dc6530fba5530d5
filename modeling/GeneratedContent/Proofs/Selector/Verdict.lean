import GeneratedContent.Proofs.Injection.Marker
import GeneratedContent.Proofs.Selector.Ignoring

/-!
# What can be told of markers

What a marker looks like is settled by its placement, but for its text and its style. So of many
conditions it can be told beforehand whether a marker meets them: by a sample those on names and on
attributes other than the style (`Marker.sample`), and those on elements inside, since there are none.
Of others nothing is told. What is told of the parts of a selector tells something of the whole, and it
is true of every marker of the placement (`Complex.fits_anyVerdict`).
-/

namespace GeneratedContent

open Html

/-! ## Verdicts -/

/-- What is told of a condition: whether it holds, or nothing. -/
abbrev Verdict := Option Bool

namespace Verdict

/-- The verdict on two conditions together. One that fails is enough to tell. -/
def both : Verdict → Verdict → Verdict
  | some false, _ => some false
  | some true, w => w
  | none, some false => some false
  | none, _ => none

/-- The verdict on two conditions of which one is to hold. -/
def either (v w : Verdict) : Verdict := (both (v.map not) (w.map not)).map not

/-- Whether a verdict is true, if it tells anything. -/
def Fits (v : Verdict) (b : Bool) : Prop := ∀ u ∈ v, u = b

@[simp] theorem fits_none (b : Bool) : Fits none b := fun _ h => absurd h (by simp)

@[simp] theorem fits_some (a b : Bool) : Fits (some a) b ↔ a = b := by
  simp [Fits]

variable {v w : Verdict} {b c : Bool}

theorem Fits.both (hv : Fits v b) (hw : Fits w c) : Fits (both v w) (b && c) := by
  match v, w with
  | some false, _ => simp [Verdict.both, ← (fits_some _ _).1 hv]
  | some true, w => simpa [Verdict.both, ← (fits_some _ _).1 hv] using hw
  | none, some false => simp [Verdict.both, ← (fits_some _ _).1 hw]
  | none, some true => exact fits_none _
  | none, none => exact fits_none _

theorem Fits.negated (hv : Fits v b) : Fits (v.map not) (!b) := by
  cases v with
  | none => exact fits_none _
  | some a => simpa using hv

theorem Fits.either (hv : Fits v b) (hw : Fits w c) : Fits (either v w) (b || c) := by
  have h := (hv.negated.both hw.negated).negated
  rwa [Bool.not_and, Bool.not_not, Bool.not_not] at h

end Verdict

/-! ## Markers by their name and attributes -/

/-- Whether a place is that of a marker of a placement. -/
structure Html.Place.MarkerOf (settings : Settings) (placement : Placement) (q : Place) : Prop where
  /-- It has the name of markers. -/
  name : q.name = settings.markerName
  /-- It has the attributes of a marker for the placement, whatever its style is. -/
  attributes : ∃ m : Marker, m.label = placement.name ∧ q.attributes = m.attributes settings
  /-- There is no element in it. -/
  childless : Node.elementsAll q.contents = []

/-- A marker of a placement, without content and style. -/
def Marker.sample (settings : Settings) (placement : Placement) : Place :=
  .inside (.page []) [] 0 settings.markerName
    (Marker.attributes settings ⟨placement.name, [], .empty⟩) [] []

/-- Markers of a placement differ in their style alone. -/
theorem Marker.beyondStyle_attributes (settings : Settings) {m n : Marker}
    (h : m.label = n.label) :
    (m.attributes settings).beyondStyle = (n.attributes settings).beyondStyle := by
  unfold attributes
  rw [h]
  exact (OrderedMap.erase_insert_self _ _ _).trans (OrderedMap.erase_insert_self _ _ _).symm

namespace Html.Place

theorem valueOf?_of_beyondStyle_eq {p q : Place}
    (h : p.attributes.beyondStyle = q.attributes.beyondStyle) {name : Text}
    (hname : differs name styleAttribute = true) : p.valueOf? name = q.valueOf? name := by
  have hne := of_decide_eq_true hname
  unfold valueOf?
  rw [← p.attributes.find?_beyondStyle hne, h, q.attributes.find?_beyondStyle hne]

theorem classes_of_beyondStyle_eq {p q : Place}
    (h : p.attributes.beyondStyle = q.attributes.beyondStyle) : p.classes = q.classes := by
  unfold classes
  rw [valueOf?_of_beyondStyle_eq h (by decide)]

theorem MarkerOf.beyondStyle {settings : Settings} {placement : Placement} {q : Place}
    (h : q.MarkerOf settings placement) :
    q.attributes.beyondStyle = (Marker.sample settings placement).attributes.beyondStyle := by
  rcases h.attributes with ⟨m, hlabel, hattributes⟩
  rw [hattributes]
  exact Marker.beyondStyle_attributes settings (n := ⟨placement.name, [], .empty⟩) hlabel

theorem MarkerOf.loweredName {settings : Settings} {placement : Placement} {q : Place}
    (h : q.MarkerOf settings placement) :
    q.loweredName = (Marker.sample settings placement).loweredName := by
  unfold Place.loweredName
  rw [h.name]
  rfl

/-- Inside an element without elements in it there is nothing to be found. -/
theorem reached_of_childless {q : Place} (h : Node.elementsAll q.contents = []) {c : Combinator}
    (hc : c = .descendant ∨ c = .child) : q.reached c = [] := by
  rcases hc with rfl | rfl
  · have hmap := map_element_descendants q
    rw [h, List.map_eq_nil_iff] at hmap
    exact hmap
  · refine List.eq_nil_iff_forall_not_mem.2 fun p hp => ?_
    have hmem := mem_elementsAll_of_mem_ofNodes hp
    rw [h] at hmem
    exact List.not_mem_nil hmem

end Html.Place

/-! ## Verdicts on markers -/

/-- The verdict on a chain that begins at a marker: there is none inside it. -/
def Chain.verdict : Chain → Verdict
  | .last c _ => if c = .descendant ∨ c = .child then some false else none
  | .step c _ _ => if c = .descendant ∨ c = .child then some false else none

/-- The verdict on several chains of which one is to begin at a marker. -/
def Chain.anyVerdict : List Chain → Verdict
  | [] => some false
  | c :: cs => Verdict.either c.verdict (Chain.anyVerdict cs)

mutual

/-- The verdict on a condition on the markers of a placement. -/
def Simple.verdict (settings : Settings) (placement : Placement) : Simple → Verdict
  | .named space name => some (Simple.holds (.named space name) (Marker.sample settings placement))
  | .identified id => some (Simple.holds (.identified id) (Marker.sample settings placement))
  | .classed name => some (Simple.holds (.classed name) (Marker.sample settings placement))
  | .attributed name test =>
    if differs name styleAttribute then
      some (Simple.holds (.attributed name test) (Marker.sample settings placement))
    else none
  | .never => some false
  | .root => none
  | .empty => none
  | .positioned _ _ _ => none
  | .positionedAmong _ _ selector => Verdict.both (Complex.anyVerdict settings placement selector) none
  | .anyOf selector => Complex.anyVerdict settings placement selector
  | .noneOf selector => (Complex.anyVerdict settings placement selector).map not
  | .followedBy chains => Chain.anyVerdict chains

/-- The verdict on several conditions together. -/
def Simple.allVerdict (settings : Settings) (placement : Placement) : List Simple → Verdict
  | [] => some true
  | s :: ss => Verdict.both (s.verdict settings placement) (Simple.allVerdict settings placement ss)

/-- The verdict on a chain that is to end at a marker. -/
def Complex.verdict (settings : Settings) (placement : Placement) : Complex → Verdict
  | .compound parts => Simple.allVerdict settings placement parts
  | .joined _ _ parts => Verdict.both (Simple.allVerdict settings placement parts) none

/-- The verdict on a selector. -/
def Complex.anyVerdict (settings : Settings) (placement : Placement) : List Complex → Verdict
  | [] => some false
  | c :: cs => Verdict.either (c.verdict settings placement) (Complex.anyVerdict settings placement cs)

end

section Markers

variable {settings : Settings} {placements : List Placement} {placement : Placement} {q : Place}

theorem Chain.fits_anyVerdict (hq : q.MarkerOf settings placement) (cs : List Chain) :
    Verdict.Fits (Chain.anyVerdict cs) (Chain.anyHolds cs q) := by
  induction cs with
  | nil => simp [Chain.anyVerdict, Chain.anyHolds]
  | cons c cs ih =>
    have hc : Verdict.Fits c.verdict (c.holds q) := by
      cases c with
      | last c parts =>
        by_cases hinside : c = .descendant ∨ c = .child
        · simp [Chain.verdict, Chain.holds, hinside, Place.reached_of_childless hq.childless hinside]
        · simp [Chain.verdict, hinside]
      | step c parts rest =>
        by_cases hinside : c = .descendant ∨ c = .child
        · simp [Chain.verdict, Chain.holds, hinside, Place.reached_of_childless hq.childless hinside]
        · simp [Chain.verdict, hinside]
    rw [Chain.anyVerdict, Chain.anyHolds]
    exact hc.either ih

mutual

theorem Simple.fits_verdict (hq : q.MarkerOf settings placement) : (s : Simple) →
    Verdict.Fits (s.verdict settings placement) (s.holds q)
  | .named space name => by
    simp only [Simple.verdict, Simple.holds, Verdict.fits_some, hq.loweredName]
  | .identified id => by
    have hid := Place.valueOf?_of_beyondStyle_eq hq.beyondStyle
      (show differs "id".toList styleAttribute = true by decide)
    simp only [Simple.verdict, Simple.holds, Verdict.fits_some, hid]
  | .classed name => by
    have hclasses := Place.classes_of_beyondStyle_eq hq.beyondStyle
    simp only [Simple.verdict, Simple.holds, Verdict.fits_some, hclasses]
  | .attributed name test => by
    rw [Simple.verdict]
    split
    · rename_i hname
      have hvalue := Place.valueOf?_of_beyondStyle_eq hq.beyondStyle hname
      simp only [Simple.holds, Verdict.fits_some, hvalue]
    · exact Verdict.fits_none _
  | .never => by
    simp only [Simple.verdict, Simple.holds, Verdict.fits_some]
  | .root => by
    simp only [Simple.verdict, Verdict.fits_none]
  | .empty => by
    simp only [Simple.verdict, Verdict.fits_none]
  | .positioned _ _ _ => by
    simp only [Simple.verdict, Verdict.fits_none]
  | .positionedAmong _ _ selector => by
    rw [Simple.verdict, Simple.holds]
    exact (Complex.fits_anyVerdict hq selector).both (Verdict.fits_none _)
  | .anyOf selector => by
    rw [Simple.verdict, Simple.holds]
    exact Complex.fits_anyVerdict hq selector
  | .noneOf selector => by
    rw [Simple.verdict, Simple.holds]
    exact (Complex.fits_anyVerdict hq selector).negated
  | .followedBy chains => by
    rw [Simple.verdict, Simple.holds]
    exact Chain.fits_anyVerdict hq chains

theorem Simple.fits_allVerdict (hq : q.MarkerOf settings placement) : (ss : List Simple) →
    Verdict.Fits (Simple.allVerdict settings placement ss) (Simple.allHold ss q)
  | [] => by
    simp only [Simple.allVerdict, Simple.allHold, Verdict.fits_some]
  | s :: ss => by
    rw [Simple.allVerdict, Simple.allHold]
    exact (Simple.fits_verdict hq s).both (Simple.fits_allVerdict hq ss)

theorem Complex.fits_verdict (hq : q.MarkerOf settings placement) : (c : Complex) →
    Verdict.Fits (c.verdict settings placement) (c.holds q)
  | .compound parts => by
    rw [Complex.verdict, Complex.holds]
    exact Simple.fits_allVerdict hq parts
  | .joined _ _ parts => by
    rw [Complex.verdict, Complex.holds]
    exact (Simple.fits_allVerdict hq parts).both (Verdict.fits_none _)

/-- What is told of a selector is true of every marker of the placement. -/
theorem Complex.fits_anyVerdict (hq : q.MarkerOf settings placement) : (s : Selector) →
    Verdict.Fits (Complex.anyVerdict settings placement s) (Complex.anyHolds s q)
  | [] => by
    simp only [Complex.anyVerdict, Complex.anyHolds, Verdict.fits_some]
  | c :: cs => by
    rw [Complex.anyVerdict, Complex.anyHolds]
    exact (Complex.fits_verdict hq c).either (Complex.fits_anyVerdict hq cs)

end

/-! ## What no marker matches -/

/-- Whether it can be told that no marker of some placements meets several conditions. -/
def Simple.noneMeets (settings : Settings) (placements : List Placement) (parts : List Simple) :
    Bool :=
  placements.all fun x => Simple.allVerdict settings x parts = some false

/-- Whether it can be told that no marker of some placements ends a chain. -/
def Complex.noneEnds (settings : Settings) (placements : List Placement) (c : Complex) : Bool :=
  placements.all fun x => c.verdict settings x = some false

/-- Whether it can be told that no marker of some placements matches a selector. -/
def Complex.noneMatches (settings : Settings) (placements : List Placement) (s : Selector) : Bool :=
  placements.all fun x => Complex.anyVerdict settings x s = some false

/-- What is told of all placements is true of the markers of each. -/
theorem Verdict.eq_false_of_all {verdict : Placement → Verdict} {b : Bool}
    (h : (placements.all fun x => verdict x = some false) = true) (hmem : placement ∈ placements)
    (hfits : Fits (verdict placement) b) : b = false :=
  (hfits false (of_decide_eq_true (List.all_eq_true.1 h placement hmem))).symm

theorem Simple.allHold_of_noneMeets (hmem : placement ∈ placements) {parts : List Simple}
    (h : Simple.noneMeets settings placements parts = true) (hq : q.MarkerOf settings placement) :
    Simple.allHold parts q = false :=
  Verdict.eq_false_of_all h hmem (Simple.fits_allVerdict hq parts)

theorem Complex.holds_of_noneEnds (hmem : placement ∈ placements) {c : Complex}
    (h : c.noneEnds settings placements = true) (hq : q.MarkerOf settings placement) :
    c.holds q = false :=
  Verdict.eq_false_of_all h hmem (Complex.fits_verdict hq c)

theorem Complex.anyHolds_of_noneMatches (hmem : placement ∈ placements) {s : Selector}
    (h : Complex.noneMatches settings placements s = true) (hq : q.MarkerOf settings placement) :
    Complex.anyHolds s q = false :=
  Verdict.eq_false_of_all h hmem (Complex.fits_anyVerdict hq s)

end Markers

end GeneratedContent
