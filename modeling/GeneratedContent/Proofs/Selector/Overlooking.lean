import GeneratedContent.Proofs.Injection.Surroundings

/-!
# Selectors that overlook markers

Markers are elements, so an element can match a selector in a page with markers and not without them.
A selector overlooks markers if it does not ask for styles or for emptiness, counts siblings only of
another name than that of markers or from the side where there are none, and steps to siblings and
inwards only by compounds of which it can be told that no marker there matches them. An element matches
such a selector in a page with markers just when it does so without them (`Complex.anyHolds_enrich`).
-/

namespace GeneratedContent

open Html

/-- Whether a condition asks for a name that is not that of markers. -/
def Simple.namesOther (settings : Settings) : Simple → Bool
  | .named _ name => Text.lowerAscii name ≠ ['*'] &&
      Text.lowerAscii name ≠ Text.lowerAscii settings.markerName
  | _ => false

mutual

/-- Whether markers of some placements, and styles, make no difference to a condition, possibly on an
element that is known to have another name than markers. -/
def Simple.overlooks (settings : Settings) (placements : List Placement) (other : Bool) :
    Simple → Bool
  | .named _ _ => true
  | .identified _ => true
  | .classed _ => true
  | .attributed name _ => placements.isEmpty || differs name styleAttribute
  | .never => true
  | .root => true
  | .empty => placements.isEmpty
  | .positioned _ ofType fromEnd => ofType && other || (Placement.onSide placements fromEnd).isEmpty
  | .positionedAmong _ fromEnd selector => Complex.allOverlook settings placements selector &&
      Complex.noneMatches settings (Placement.onSide placements fromEnd) selector
  | .anyOf selector => Complex.allOverlook settings placements selector
  | .noneOf selector => Complex.allOverlook settings placements selector
  | .followedBy chains => Chain.allOverlook settings placements chains

/-- Whether markers make no difference to several conditions on an element. -/
def Simple.allOverlook (settings : Settings) (placements : List Placement) (other : Bool) :
    List Simple → Bool
  | [] => true
  | s :: ss => s.overlooks settings placements other &&
      Simple.allOverlook settings placements other ss

/-- Whether markers make no difference to a chain. -/
def Complex.overlooks (settings : Settings) (placements : List Placement) : Complex → Bool
  | .compound parts =>
    Simple.allOverlook settings placements (parts.any (Simple.namesOther settings)) parts
  | .joined left c parts => left.overlooks settings placements &&
      left.noneEnds settings (c.markersBack placements) &&
      Simple.allOverlook settings placements (parts.any (Simple.namesOther settings)) parts

/-- Whether markers make no difference to a selector. -/
def Complex.allOverlook (settings : Settings) (placements : List Placement) : List Complex → Bool
  | [] => true
  | c :: cs => c.overlooks settings placements && Complex.allOverlook settings placements cs

/-- Whether markers make no difference to a chain that goes on from an element. -/
def Chain.overlooks (settings : Settings) (placements : List Placement) : Chain → Bool
  | .last c parts =>
    Simple.allOverlook settings placements (parts.any (Simple.namesOther settings)) parts &&
      Simple.noneMeets settings (c.markersAhead placements) parts
  | .step c parts rest =>
    Simple.allOverlook settings placements (parts.any (Simple.namesOther settings)) parts &&
      Simple.noneMeets settings (c.markersAhead placements) parts && rest.overlooks settings placements

/-- Whether markers make no difference to several chains that go on from an element. -/
def Chain.allOverlook (settings : Settings) (placements : List Placement) : List Chain → Bool
  | [] => true
  | c :: cs => c.overlooks settings placements && Chain.allOverlook settings placements cs

end

section Overlooking

variable {x : Additions} {settings : Settings} {placements : List Placement}

/-! ## Matching in pages with markers -/

/-- An element with another name than markers is asked for by no condition that holds of an element
with their name. -/
theorem Simple.allHold_of_namesOther {parts : List Simple} {p : Place}
    (hother : parts.any (Simple.namesOther settings) = true)
    (hname : p.loweredName = Text.lowerAscii settings.markerName) :
    Simple.allHold parts p = false := by
  induction parts with
  | nil => exact absurd hother (by simp)
  | cons s parts ih =>
    rw [List.any_cons, Bool.or_eq_true] at hother
    rcases hother with hs | hparts
    · cases s with
      | named space name =>
        simp only [Simple.namesOther, Bool.and_eq_true, decide_eq_true_eq] at hs
        simp [Simple.allHold, Simple.holds, hname, hs.1, hs.2]
      | _ => exact absurd hs (by simp [Simple.namesOther])
    · rw [Simple.allHold, ih hparts, Bool.and_false]

open Place in
mutual

theorem Simple.holds_enrich (hx : x.AreMarkers settings placements) {other : Bool} :
    (s : Simple) → s.overlooks settings placements other = true → ∀ p : Place,
      (other = true → p.loweredName ≠ Text.lowerAscii settings.markerName) →
        s.holds (p.enrich x) = s.holds p
  | .named _ _ => by
    intro _ p _
    simp only [Simple.holds, loweredName_enrich]
  | .identified _ => by
    intro _ p _
    simp only [Simple.holds, valueOf?_of_beyondStyle_eq (hx.beyondStyle_enrich p)
      (show differs "id".toList styleAttribute = true by decide)]
  | .classed _ => by
    intro _ p _
    simp only [Simple.holds, classes_of_beyondStyle_eq (hx.beyondStyle_enrich p)]
  | .attributed name _ => by
    intro h p _
    simp only [Simple.overlooks, Bool.or_eq_true, List.isEmpty_iff] at h
    have hvalue : (p.enrich x).valueOf? name = p.valueOf? name := by
      rcases h with rfl | h
      · unfold valueOf?
        rw [hx.attributes_enrich]
      · exact valueOf?_of_beyondStyle_eq (hx.beyondStyle_enrich p) h
    simp only [Simple.holds, hvalue]
  | .never => by
    intro _ p _
    simp only [Simple.holds]
  | .root => by
    intro _ p _
    simp only [Simple.holds, isRoot_enrich]
  | .empty => by
    intro h p _
    simp only [Simple.overlooks, List.isEmpty_iff] at h
    subst h
    simp only [Simple.holds, hx.contents_enrich, any_enrichAll isContent_enrich]
  | .positioned positions ofType fromEnd => by
    intro h p hp
    simp only [Simple.overlooks, Bool.or_eq_true, Bool.and_eq_true, List.isEmpty_iff] at h
    have hfails : FailsMarkers settings (Placement.onSide placements fromEnd)
        fun q => !ofType || decide (q.loweredName = p.loweredName) := by
      intro placement hmem q hq
      rcases h with ⟨htype, hother⟩ | hnone
      · have hne : q.loweredName ≠ p.loweredName := by
          rw [hq.loweredName]
          exact (hp hother).symm
        simp [htype, hne]
      · exact absurd hmem (hnone ▸ List.not_mem_nil)
    have hcount := congrArg List.length (filter_counted_enrich hx p fromEnd hfails)
    rw [List.length_map] at hcount
    simp only [loweredName_enrich] at hcount
    simp only [Simple.holds, loweredName_enrich, hcount]
  | .positionedAmong positions fromEnd selector => by
    intro h p _
    simp only [Simple.overlooks, Bool.and_eq_true] at h
    have hselector := Complex.anyHolds_enrich hx selector h.1
    have hfails : FailsMarkers settings (Placement.onSide placements fromEnd)
        fun q => Complex.anyHolds selector q := fun placement hmem q hq =>
      Complex.anyHolds_of_noneMatches hmem h.2 hq
    have hcount := congrArg List.length (filter_counted_enrich hx p fromEnd hfails)
    rw [List.length_map] at hcount
    simp only [hselector] at hcount
    simp only [Simple.holds, hselector, hcount]
  | .anyOf selector => by
    intro h p _
    simp only [Simple.overlooks] at h
    simp only [Simple.holds, Complex.anyHolds_enrich hx selector h p]
  | .noneOf selector => by
    intro h p _
    simp only [Simple.overlooks] at h
    simp only [Simple.holds, Complex.anyHolds_enrich hx selector h p]
  | .followedBy chains => by
    intro h p _
    simp only [Simple.overlooks] at h
    simp only [Simple.holds, Chain.anyHolds_enrich hx chains h p]

theorem Simple.allHold_enrich (hx : x.AreMarkers settings placements) {other : Bool} :
    (ss : List Simple) → Simple.allOverlook settings placements other ss = true → ∀ p : Place,
      (other = true → p.loweredName ≠ Text.lowerAscii settings.markerName) →
        Simple.allHold ss (p.enrich x) = Simple.allHold ss p
  | [] => by
    intro _ p _
    simp only [Simple.allHold]
  | s :: ss => by
    intro h p hp
    simp only [Simple.allOverlook, Bool.and_eq_true] at h
    simp only [Simple.allHold, Simple.holds_enrich hx s h.1 p hp,
      Simple.allHold_enrich hx ss h.2 p hp]

theorem Simple.compound_enrich (hx : x.AreMarkers settings placements) (parts : List Simple)
    (h : Simple.allOverlook settings placements (parts.any (Simple.namesOther settings)) parts = true)
    (p : Place) : Simple.allHold parts (p.enrich x) = Simple.allHold parts p := by
  -- an element with the name of markers may be counted among them, but it has the wrong name then
  by_cases hp : parts.any (Simple.namesOther settings) = true ∧
      p.loweredName = Text.lowerAscii settings.markerName
  · have hname : (p.enrich x).loweredName = Text.lowerAscii settings.markerName :=
      (loweredName_enrich p).trans hp.2
    rw [Simple.allHold_of_namesOther hp.1 hname, Simple.allHold_of_namesOther hp.1 hp.2]
  · exact Simple.allHold_enrich hx parts h p fun hother hname => hp ⟨hother, hname⟩

theorem Complex.holds_enrich (hx : x.AreMarkers settings placements) : (c : Complex) →
    c.overlooks settings placements = true → ∀ p : Place, c.holds (p.enrich x) = c.holds p
  | .compound parts => by
    intro h p
    simp only [Complex.overlooks] at h
    simp only [Complex.holds, Simple.compound_enrich hx parts h p]
  | .joined left c parts => by
    intro h p
    simp only [Complex.overlooks, Bool.and_eq_true] at h
    have hfails : FailsMarkers settings (c.markersBack placements) fun q => left.holds q :=
      fun placement hmem q hq => Complex.holds_of_noneEnds hmem h.1.2 hq
    have hleft := any_reachedBack_enrich hx p c hfails
    simp only [Complex.holds_enrich hx left h.1.1] at hleft
    simp only [Complex.holds, Simple.compound_enrich hx parts h.2 p, hleft]

/-- A selector that overlooks markers matches an element in a page with markers just when it matches
it without them. -/
theorem Complex.anyHolds_enrich (hx : x.AreMarkers settings placements) : (s : Selector) →
    Complex.allOverlook settings placements s = true → ∀ p : Place,
      Complex.anyHolds s (p.enrich x) = Complex.anyHolds s p
  | [] => by
    intro _ p
    simp only [Complex.anyHolds]
  | c :: cs => by
    intro h p
    simp only [Complex.allOverlook, Bool.and_eq_true] at h
    simp only [Complex.anyHolds, Complex.holds_enrich hx c h.1 p, Complex.anyHolds_enrich hx cs h.2 p]

theorem Chain.holds_enrich (hx : x.AreMarkers settings placements) : (c : Chain) →
    c.overlooks settings placements = true → ∀ p : Place, c.holds (p.enrich x) = c.holds p
  | .last c parts => by
    intro h p
    simp only [Chain.overlooks, Bool.and_eq_true] at h
    have hfails : FailsMarkers settings (c.markersAhead placements)
        fun q => Simple.allHold parts q := fun placement hmem q hq =>
      Simple.allHold_of_noneMeets hmem h.2 hq
    have hparts := any_reached_enrich hx p c hfails
    simp only [Simple.compound_enrich hx parts h.1] at hparts
    simp only [Chain.holds, hparts]
  | .step c parts rest => by
    intro h p
    simp only [Chain.overlooks, Bool.and_eq_true] at h
    have hfails : FailsMarkers settings (c.markersAhead placements)
        fun q => Simple.allHold parts q && rest.holds q := by
      intro placement hmem q hq
      show (Simple.allHold parts q && rest.holds q) = false
      rw [Simple.allHold_of_noneMeets hmem h.1.2 hq, Bool.false_and]
    have hparts := any_reached_enrich hx p c hfails
    simp only [Simple.compound_enrich hx parts h.1.1, Chain.holds_enrich hx rest h.2] at hparts
    simp only [Chain.holds, hparts]

theorem Chain.anyHolds_enrich (hx : x.AreMarkers settings placements) : (cs : List Chain) →
    Chain.allOverlook settings placements cs = true → ∀ p : Place,
      Chain.anyHolds cs (p.enrich x) = Chain.anyHolds cs p
  | [] => by
    intro _ p
    simp only [Chain.anyHolds]
  | c :: cs => by
    intro h p
    simp only [Chain.allOverlook, Bool.and_eq_true] at h
    simp only [Chain.anyHolds, Chain.holds_enrich hx c h.1 p, Chain.anyHolds_enrich hx cs h.2 p]

end

end Overlooking

end GeneratedContent
