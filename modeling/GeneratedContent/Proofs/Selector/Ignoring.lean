import GeneratedContent.Proofs.Html.Recast
import GeneratedContent.Selector.Matching

/-!
# Selectors that ignore an attribute

A selector that never asks for an attribute matches the same elements when the attribute has other
values, and when the elements have other numbers: it matches a place in a recast page just when it
matches the place in the page (`Complex.anyHolds_recast`).
-/

namespace GeneratedContent

open Html

/-- Whether two names of attributes are not the same but for the case of letters. -/
def differs (name other : Text) : Bool := Text.lowerAscii name ≠ Text.lowerAscii other

mutual

/-- Whether a condition does not ask for an attribute. -/
def Simple.ignores (key : Text) : Simple → Bool
  | .named _ _ => true
  | .identified _ => differs "id".toList key
  | .classed _ => differs "class".toList key
  | .attributed name _ => differs name key
  | .never => true
  | .root => true
  | .empty => true
  | .positioned _ _ _ => true
  | .positionedAmong _ _ selector => Complex.allIgnore key selector
  | .anyOf selector => Complex.allIgnore key selector
  | .noneOf selector => Complex.allIgnore key selector
  | .followedBy chains => Chain.allIgnore key chains

/-- Whether none of several conditions asks for an attribute. -/
def Simple.allIgnore (key : Text) : List Simple → Bool
  | [] => true
  | s :: ss => s.ignores key && Simple.allIgnore key ss

/-- Whether a chain does not ask for an attribute. -/
def Complex.ignores (key : Text) : Complex → Bool
  | .compound parts => Simple.allIgnore key parts
  | .joined left _ parts => left.ignores key && Simple.allIgnore key parts

/-- Whether a selector does not ask for an attribute. -/
def Complex.allIgnore (key : Text) : List Complex → Bool
  | [] => true
  | c :: cs => c.ignores key && Complex.allIgnore key cs

/-- Whether a chain that goes on from an element does not ask for an attribute. -/
def Chain.ignores (key : Text) : Chain → Bool
  | .last _ parts => Simple.allIgnore key parts
  | .step _ parts rest => Simple.allIgnore key parts && rest.ignores key

/-- Whether none of several chains asks for an attribute. -/
def Chain.allIgnore (key : Text) : List Chain → Bool
  | [] => true
  | c :: cs => c.ignores key && Chain.allIgnore key cs

end

/-- Whether recasting leaves the values of all attributes but one as they are. -/
def Html.Recasting.Keeps (f : Recasting) (key : Text) : Prop :=
  ∀ (a : Attributes) (name : Text), differs name key = true →
    ((f.attributes a).entries.find? fun e => Text.lowerAscii e.1 = Text.lowerAscii name) =
      a.entries.find? fun e => Text.lowerAscii e.1 = Text.lowerAscii name

variable {f : Recasting} {key : Text}

namespace Html.Place

theorem valueOf?_recast (hf : f.Keeps key) {name : Text} (h : differs name key = true)
    (p : Place) : (p.recast f).valueOf? name = p.valueOf? name := by
  cases p with
  | page nodes => rfl
  | inside parent before id elementName attributes children after =>
    unfold valueOf?
    rw [show (recast f (.inside parent before id elementName attributes children after)).attributes =
      f.attributes attributes from rfl, hf attributes name h]
    rfl

theorem classes_recast (hf : f.Keeps key) (h : differs "class".toList key = true)
    (p : Place) : (p.recast f).classes = p.classes := by
  unfold classes
  rw [valueOf?_recast hf h]

theorem loweredName_recast (p : Place) : (p.recast f).loweredName = p.loweredName := by
  unfold loweredName
  rw [name_recast]

theorem counted_recast (p : Place) (fromEnd : Bool) :
    (p.recast f).counted fromEnd = (p.counted fromEnd).map (recast f) := by
  cases fromEnd with
  | false => exact earlier_recast f p
  | true => exact later_recast f p

theorem reached_recast (p : Place) (c : Combinator) :
    (p.recast f).reached c = (p.reached c).map (recast f) := by
  cases c with
  | descendant => exact descendants_recast f p
  | child => exact children_recast f p
  | next => exact (congrArg _ (later_recast f p)).trans List.map_take.symm
  | later => exact later_recast f p

theorem reachedBack_recast (p : Place) (c : Combinator) :
    (p.recast f).reachedBack c = (p.reachedBack c).map (recast f) := by
  cases c with
  | descendant => exact ancestors_recast f p
  | child =>
    show (p.recast f).parent?.toList = p.parent?.toList.map (recast f)
    rw [parent?_recast]
    cases p.parent? <;> rfl
  | next => exact (congrArg _ (earlier_recast f p)).trans List.map_take.symm
  | later => exact earlier_recast f p

theorem any_recastAll {test : Node → Bool} (h : ∀ n : Node, test (n.recast f) = test n)
    (ns : List Node) : (Node.recastAll f ns).any test = ns.any test := by
  induction ns with
  | nil => simp
  | cons n ns ih => simp [h, ih]

theorem isContent_recast (n : Node) : isContent (n.recast f) = isContent n := by
  cases n <;> simp [isContent]

theorem deniesRoot_recast (n : Node) : deniesRoot (n.recast f) = deniesRoot n := by
  cases n <;> simp [deniesRoot]

theorem isRoot_recast (p : Place) : (p.recast f).isRoot = p.isRoot := by
  cases p with
  | page nodes => rfl
  | inside parent before id name attributes children after =>
    -- only an element right inside the page may be its root
    cases parent with
    | page nodes =>
      show (!(Node.recastAll f before).any deniesRoot && !(Node.recastAll f after).any deniesRoot) = _
      rw [any_recastAll deniesRoot_recast, any_recastAll deniesRoot_recast]
      rfl
    | inside _ _ _ _ _ _ _ => rfl

end Html.Place

theorem any_map_recast (test : Place → Bool) (h : ∀ q : Place, test (q.recast f) = test q)
    (qs : List Place) : (qs.map (Place.recast f)).any test = qs.any test := by
  rw [List.any_map]
  congr 1
  funext q
  exact h q

theorem length_filter_recast (test : Place → Bool) (h : ∀ q : Place, test (q.recast f) = test q)
    (qs : List Place) :
    ((qs.map (Place.recast f)).filter test).length = (qs.filter test).length := by
  have htest : test ∘ Place.recast f = test := funext h
  rw [List.filter_map, List.length_map, htest]

mutual

theorem Simple.holds_recast (hf : f.Keeps key) : (s : Simple) →
    s.ignores key = true → ∀ p : Place, s.holds (p.recast f) = s.holds p
  | .named _ _ => by
    intro _ p
    simp only [Simple.holds, Place.loweredName_recast]
  | .identified _ => by
    intro h p
    simp only [Simple.holds, Place.valueOf?_recast hf h]
  | .classed _ => by
    intro h p
    simp only [Simple.holds, Place.classes_recast hf h]
  | .attributed _ _ => by
    intro h p
    simp only [Simple.holds, Place.valueOf?_recast hf h]
  | .never => by
    intro _ p
    simp only [Simple.holds]
  | .root => by
    intro _ p
    simp only [Simple.holds, Place.isRoot_recast]
  | .empty => by
    intro _ p
    simp only [Simple.holds, Place.contents_recast, Place.any_recastAll Place.isContent_recast]
  | .positioned positions ofType fromEnd => by
    intro _ p
    have hcount := length_filter_recast (f := f)
      (fun q => !ofType || decide (q.loweredName = p.loweredName))
      (fun q => by simp only [Place.loweredName_recast]) (p.counted fromEnd)
    simp only [Simple.holds, Place.counted_recast, Place.loweredName_recast, hcount]
  | .positionedAmong positions fromEnd selector => by
    intro h p
    have hselector := Complex.anyHolds_recast hf selector h
    have hcount := length_filter_recast _ hselector (p.counted fromEnd)
    simp only [Simple.holds, Place.counted_recast, hselector, hcount]
  | .anyOf selector => by
    intro h p
    simp only [Simple.holds, Complex.anyHolds_recast hf selector h p]
  | .noneOf selector => by
    intro h p
    simp only [Simple.holds, Complex.anyHolds_recast hf selector h p]
  | .followedBy chains => by
    intro h p
    simp only [Simple.holds, Chain.anyHolds_recast hf chains h p]

theorem Simple.allHold_recast (hf : f.Keeps key) : (ss : List Simple) →
    Simple.allIgnore key ss = true → ∀ p : Place,
      Simple.allHold ss (p.recast f) = Simple.allHold ss p
  | [] => by
    intro _ p
    simp only [Simple.allHold]
  | s :: ss => by
    intro h p
    simp only [Simple.allIgnore, Bool.and_eq_true] at h
    simp only [Simple.allHold, Simple.holds_recast hf s h.1 p, Simple.allHold_recast hf ss h.2 p]

theorem Complex.holds_recast (hf : f.Keeps key) : (c : Complex) →
    c.ignores key = true → ∀ p : Place, c.holds (p.recast f) = c.holds p
  | .compound parts => by
    intro h p
    simp only [Complex.holds, Simple.allHold_recast hf parts h p]
  | .joined left c parts => by
    intro h p
    simp only [Complex.ignores, Bool.and_eq_true] at h
    have hleft := any_map_recast _ (Complex.holds_recast hf left h.1) (p.reachedBack c)
    simp only [Complex.holds, Simple.allHold_recast hf parts h.2 p, Place.reachedBack_recast, hleft]

/-- A selector that does not ask for an attribute matches the same elements after recasting. -/
theorem Complex.anyHolds_recast (hf : f.Keeps key) : (s : Selector) →
    Complex.allIgnore key s = true → ∀ p : Place,
      Complex.anyHolds s (p.recast f) = Complex.anyHolds s p
  | [] => by
    intro _ p
    simp only [Complex.anyHolds]
  | c :: cs => by
    intro h p
    simp only [Complex.allIgnore, Bool.and_eq_true] at h
    simp only [Complex.anyHolds, Complex.holds_recast hf c h.1 p,
      Complex.anyHolds_recast hf cs h.2 p]

theorem Chain.holds_recast (hf : f.Keeps key) : (c : Chain) →
    c.ignores key = true → ∀ p : Place, c.holds (p.recast f) = c.holds p
  | .last c parts => by
    intro h p
    have hparts := any_map_recast _ (Simple.allHold_recast hf parts h) (p.reached c)
    simp only [Chain.holds, Place.reached_recast, hparts]
  | .step c parts rest => by
    intro h p
    simp only [Chain.ignores, Bool.and_eq_true] at h
    have hparts := any_map_recast (f := f) (fun q => Simple.allHold parts q && rest.holds q)
      (fun q => by
        simp only [Simple.allHold_recast hf parts h.1 q, Chain.holds_recast hf rest h.2 q])
      (p.reached c)
    simp only [Chain.holds, Place.reached_recast, hparts]

theorem Chain.anyHolds_recast (hf : f.Keeps key) : (cs : List Chain) →
    Chain.allIgnore key cs = true → ∀ p : Place,
      Chain.anyHolds cs (p.recast f) = Chain.anyHolds cs p
  | [] => by
    intro _ p
    simp only [Chain.anyHolds]
  | c :: cs => by
    intro h p
    simp only [Chain.allIgnore, Bool.and_eq_true] at h
    simp only [Chain.anyHolds, Chain.holds_recast hf c h.1 p, Chain.anyHolds_recast hf cs h.2 p]

end

end GeneratedContent
