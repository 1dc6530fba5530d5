import GeneratedContent.Proofs.Injection.Repetition
import GeneratedContent.Proofs.Injection.Surroundings
import GeneratedContent.Proofs.Style.Appending

/-!
# Positioning contexts

An element that gets a marker is looked at through the style that its text describes, and the
declaration that it lacks is put behind the text itself. Where the text leaves nothing open
(`Style.Complete`) the declaration is read (`Style.read_appendTo_relative`), so the first marker makes
the element a positioning context and all further ones find it to be one
(`Rule.iterate_markedAttributes`). So however many rules put markers into an element, its style gets
one declaration or none (`Html.Page.contextGiven_inject`).
-/

namespace GeneratedContent

open Html

/-! ## The declaration behind a text -/

namespace Style

/-- The property of the declaration that makes a positioning context. -/
abbrev positionKey : Text := "position".toList

/-- Whether declarations can be put behind the text of a style: without blanks at its end it leaves no
string and no comment open, and without its comments no bracket either. -/
structure Complete (written : Text) : Prop where
  /-- The last string or comment is closed. -/
  endsClosed : Css.EndsClosed (Text.trimRight written)
  /-- Without the comments, strings and brackets are closed. -/
  leavesNothingOpen : Css.LeavesNothingOpen (Css.withoutComments (Text.trimRight written))

instance (written : Text) : Decidable (Complete written) :=
  decidable_of_iff (Css.EndsClosed (Text.trimRight written) ∧
      Css.LeavesNothingOpen (Css.withoutComments (Text.trimRight written)))
    ⟨fun h => ⟨h.1, h.2⟩, fun h => ⟨h.endsClosed, h.leavesNothingOpen⟩⟩

/-- What stands between the text of a style and the declaration that is put behind it. -/
def gapBehind (kept : Text) : Text :=
  if kept = [] then [] else if kept.getLast? = some ';' then [' '] else [';', ' ']

theorem appendTo_relative (written : Text) :
    appendTo written relative =
      Text.trimRight written ++ (gapBehind (Text.trimRight written) ++ contextText) := by
  unfold appendTo gapBehind
  simp only [render_relative]
  rw [if_neg (by decide)]
  split
  · rename_i hkept
    rw [hkept]
    rfl
  · split
    · rfl
    · exact List.append_assoc _ _ _

/-- The declaration that is put behind a complete text is read behind those that are written, once. -/
theorem pairs_appendTo_relative {written : Text} (h : Complete written) :
    Declaration.pairs (appendTo written relative) =
      Declaration.pairs written ++ relative.entries := by
  have hadded : ∀ e ∈ relative.entries, Declaration.Addable e := by decide +kernel
  rcases pairs_render hadded with ⟨hplain, hpairs⟩
  rw [render_relative] at hplain hpairs
  -- blanks at the end make no difference
  have hkept : Declaration.pairs written = Declaration.pairs (Text.trimRight written) := by
    rcases Text.exists_trimRight_append written with ⟨w, hw, hblank⟩
    conv_lhs => rw [hw]
    exact Declaration.pairs_append_blank h.endsClosed h.leavesNothingOpen hblank
  have hspaced : Declaration.pairs (' ' :: contextText) = relative.entries := by
    rw [Declaration.pairs_blank, hpairs]
  have hplain' : Css.withoutComments (' ' :: contextText) = ' ' :: contextText := by
    rw [Css.withoutComments, Css.lex_single rfl (by simp)]
    exact congrArg (' ' :: ·) hplain
  rw [hkept, appendTo_relative, gapBehind]
  split
  · rename_i hnil
    have hnone : Declaration.pairs [] = [] := by decide +kernel
    rw [hnil, hnone]
    exact hpairs
  · split
    · rename_i hlast
      show Declaration.pairs (Text.trimRight written ++ ' ' :: contextText) = _
      rw [Declaration.pairs_append_of_semicolon h.endsClosed h.leavesNothingOpen hlast (by simp)
        hplain', hspaced]
    · show Declaration.pairs (Text.trimRight written ++ ';' :: ' ' :: contextText) = _
      rw [Declaration.pairs_append_semicolon h.endsClosed h.leavesNothingOpen hplain', hspaced]

/-- The style that is read then has the declaration, and otherwise what it had before. -/
theorem read_appendTo_relative {written : Text} (h : Complete written) :
    Style.read (appendTo written relative) =
      (Style.read written).insert positionKey "relative".toList :=
  read_eq_of_pairs (pairs_appendTo_relative h) (read_eq_ofList written).symm

/-- The values of a style that is read have no blanks around them. -/
theorem trim_of_get?_read {list key value : Text} (h : (Style.read list).get? key = some value) :
    Text.trim value = value := by
  rw [read_eq_ofList] at h
  rcases Option.map_eq_some_iff.1 h with ⟨e, he, rfl⟩
  have hpair := OrderedMap.mem_of_mem_ofList (List.mem_of_find?_eq_some he)
  rcases List.mem_filterMap.1 hpair with ⟨piece, -, hpiece⟩
  rcases Option.bind_eq_some_iff.1 hpiece with ⟨d, -, hd⟩
  split at hd
  · exact absurd hd (by simp)
  · obtain rfl := Option.some.inj hd
    exact Text.trim_trim _

/-- A style that makes a positioning context has a position, and it is not the static one. -/
theorem Positioned.exists_get? {list : Text} (h : (Style.read list).Positioned) :
    ∃ value, (Style.read list).get? positionKey = some value ∧ value ≠ [] ∧
      Text.lower value ≠ "static".toList := by
  unfold Positioned at h
  rw [not_or] at h
  cases hget : (Style.read list).get? positionKey with
  | none =>
    rw [hget] at h
    exact absurd rfl h.1
  | some value =>
    rw [hget, Option.getD_some, trim_of_get?_read hget] at h
    refine ⟨value, rfl, ?_, h.2⟩
    rintro rfl
    exact h.1 rfl

end Style

/-! ## The attributes of an element -/

/-- The text of the style that attributes state. -/
def Html.Attributes.styleText (a : Attributes) : Text := (a.get? styleAttribute).getD []

theorem Style.ofAttributes_addTo_relative {a : Attributes} (h : Style.Complete a.styleText) :
    Style.ofAttributes (Style.addTo a Style.relative) =
      (Style.ofAttributes a).insert Style.positionKey "relative".toList := by
  unfold Style.ofAttributes Style.addTo
  rw [OrderedMap.get?_insert_self, Option.getD_some]
  exact Style.read_appendTo_relative h

namespace Rule

/-- A marker makes an element with a complete style a positioning context. -/
theorem positioned_markedAttributes {a : Attributes} (h : Style.Complete a.styleText) :
    (Style.ofAttributes (markedAttributes a)).Positioned := by
  by_cases hpos : (Style.ofAttributes a).Positioned
  · rw [markedAttributes_of_positioned hpos]
    exact hpos
  · rw [markedAttributes_of_not_positioned hpos, Style.ofAttributes_addTo_relative h]
    unfold Style.Positioned
    rw [OrderedMap.get?_insert_self]
    decide

/-- The first marker gives an element with a complete style its context, and further ones leave it as
it is. -/
theorem iterate_markedAttributes {a : Attributes} (h : Style.Complete a.styleText) {n : Nat}
    (hn : 0 < n) : markedAttributes^[n] a = markedAttributes a := by
  obtain ⟨m, rfl⟩ : ∃ m, n = m + 1 := ⟨n - 1, by omega⟩
  rw [Function.iterate_succ_apply]
  exact iterate_again_of_positioned (positioned_markedAttributes h) m

end Rule

/-- How the attributes of an element with markers come from those that it had before. -/
structure ContextGiven (before after : Attributes) : Prop where
  /-- The style has a position, and it is not the static one. -/
  position : ∃ value, (Style.ofAttributes after).get? Style.positionKey = some value ∧
    value ≠ [] ∧ Text.lower value ≠ "static".toList
  /-- The other declarations of the style are what they were, in their order. -/
  others : (Style.ofAttributes after).erase Style.positionKey =
    (Style.ofAttributes before).erase Style.positionKey
  /-- The other attributes are what they were, in their order. -/
  attributes : after.beyondStyle = before.beyondStyle
  /-- If the style had such a position, it stays as it is written. -/
  kept : (Style.ofAttributes before).Positioned → after = before
  /-- If it had none, its text is what was written, without blanks at its end, and the declaration. -/
  written : ¬ (Style.ofAttributes before).Positioned →
    after = before.insert styleAttribute (Text.trimRight before.styleText ++
      (Style.gapBehind (Text.trimRight before.styleText) ++ contextText))
  /-- If it had none, one more declaration is read, behind those that were there. -/
  added : ¬ (Style.ofAttributes before).Positioned →
    Declaration.pairs after.styleText =
      Declaration.pairs before.styleText ++ [(Style.positionKey, "relative".toList)]

theorem Rule.contextGiven_markedAttributes {a : Attributes} (h : Style.Complete a.styleText) :
    ContextGiven a (markedAttributes a) := by
  constructor
  case position => exact (positioned_markedAttributes h).exists_get?
  case others =>
    by_cases hpos : (Style.ofAttributes a).Positioned
    · rw [markedAttributes_of_positioned hpos]
    · rw [markedAttributes_of_not_positioned hpos, Style.ofAttributes_addTo_relative h,
        OrderedMap.erase_insert_self]
  case attributes => exact beyondStyle_markedAttributes a
  case kept => exact markedAttributes_of_positioned
  case written =>
    intro hpos
    rw [markedAttributes_of_not_positioned hpos, ← Style.appendTo_relative]
    rfl
  case added =>
    intro hpos
    rw [markedAttributes_of_not_positioned hpos, Attributes.styleText, Style.addTo,
      OrderedMap.get?_insert_self, Option.getD_some]
    exact Style.pairs_appendTo_relative h

/-! ## The elements of a page -/

/-- Whether a node is a marker. -/
def Html.Node.isMarker : Node → Bool
  | .element _ _ attributes _ => Marker.marks attributes
  | .text _ => false
  | .aside _ _ => false

/-- Whether an element holds a marker of its own. -/
def Html.Element.holdsMarker (e : Element) : Bool := e.contents.any Node.isMarker

theorem Html.Node.any_isMarker_of_unmarked {ns : List Node}
    (h : ∀ e ∈ Node.elementsAll ns, Marker.marks e.attributes = false) :
    ns.any Node.isMarker = false := by
  rw [List.any_eq_false]
  intro n hn
  cases n with
  | element id name attributes children =>
    have hmem : ⟨id, name, attributes, children⟩ ∈ Node.elementsAll ns :=
      Node.mem_elementsAll.2 ⟨_, hn, by rw [Node.elements_element]; exact List.mem_cons_self⟩
    simpa [isMarker] using h _ hmem
  | text content => simp [isMarker]
  | aside kind content => simp [isMarker]

theorem Insertion.isMarker_marker (settings : Settings) (x : Insertion) :
    (x.marker settings).isMarker = true := by
  unfold Insertion.marker Marker.node Node.isMarker
  exact Marker.marks_attributes settings _

section Elements

variable {settings : Settings} {t p : Page} {log : List Insertion}

/-- A marker holds no marker. -/
theorem Insertion.holdsMarker_of_mem_elements_marker {x : Insertion} {e : Element}
    (he : e ∈ (x.marker settings).elements) : e.holdsMarker = false := by
  rcases (of_mem_elements_marker he).2.2 with hcontents | ⟨content, hcontents⟩
  · rw [Element.holdsMarker, hcontents]
    rfl
  · rw [Element.holdsMarker, hcontents]
    rfl

/-- An element of a page without markers holds one after insertions just when one of them was for it. -/
theorem Html.Element.holdsMarker_enrich_iff (settings : Settings) (log : List Insertion)
    (ht : t.Plain) {d : Element} (hd : d ∈ Node.elementsAll t.nodes) :
    (d.enrich (additions settings log)).holdsMarker = true ↔ 0 < countAt log d.id := by
  have hold : (Node.enrichAll (additions settings log) d.contents).any Node.isMarker = false := by
    rw [Place.any_enrichAll]
    · apply Node.any_isMarker_of_unmarked
      intro c hc
      exact ht.unmarked c (Node.mem_elementsAll_of_mem_contents t.nodes hd hc)
    · intro n
      cases n with
      | element id name attributes children => exact marks_additions settings log id attributes
      | text content => simp only [Node.enrich]
      | aside kind content => simp only [Node.enrich]
  have hmarkers : ∀ xs : List Insertion,
      (xs.map (Insertion.marker settings)).any Node.isMarker = true ↔ ∃ x, x ∈ xs := by
    intro xs
    cases xs with
    | nil => simp
    | cons x xs => simp [Insertion.isMarker_marker]
  rw [holdsMarker, countAt_pos_iff]
  show ((additions settings log).front d.id ++
    (Node.enrichAll (additions settings log) d.contents ++ (additions settings log).back d.id)).any
      Node.isMarker = true ↔ _
  rw [List.any_append, List.any_append, hold, Bool.false_or, Bool.or_eq_true]
  simp only [additions, List.any_reverse, hmarkers, List.mem_filter, decide_eq_true_eq]
  constructor
  · rintro (⟨x, hx, hid, -⟩ | ⟨x, hx, hid, -⟩)
    · exact ⟨x, hx, hid⟩
    · exact ⟨x, hx, hid⟩
  · rintro ⟨x, hx, hid⟩
    cases hside : x.rule.placement with
    | before => exact Or.inl ⟨x, hx, hid, hside⟩
    | after => exact Or.inr ⟨x, hx, hid, hside⟩

/-- There are insertions for an element just when a rule has it among its targets. -/
theorem countAt_insertions_pos_iff {number i : Nat} {rounds : List (Rule × List Place)} :
    0 < countAt (insertions number rounds) i ↔ ∃ round ∈ rounds, ∃ q ∈ round.2, q.id = i := by
  rw [countAt_pos_iff]
  constructor
  · rintro ⟨x, hx, hid⟩
    rcases exists_round_of_mem_insertions hx with ⟨round, hround, hq⟩
    exact ⟨round, hround, x.target, hq, hid⟩
  · rintro ⟨round, hround, q, hq, hid⟩
    rcases exists_insertion_of_mem_round hround hq with ⟨x, hx, rfl⟩
    exact ⟨x, hx, hid⟩

/-- The attributes after insertions, of an element of the page before them. -/
theorem contextGiven_additions (settings : Settings) {d : Element} (hcount : 0 < countAt log d.id)
    (h : Style.Complete d.attributes.styleText) :
    ContextGiven d.attributes ((additions settings log).attributes d.id d.attributes) := by
  rw [additions_attributes, Rule.iterate_markedAttributes h hcount]
  exact Rule.contextGiven_markedAttributes h

end Elements

/-- After rules have been carried out in a page that a text describes, every element that holds
a marker is one of the page before that some rule found, and if the text of its style is complete, it
has been given a context, by one declaration at most. All other elements that are no markers have the
attributes that they had. -/
theorem Html.Page.contextGiven_inject (settings : Settings) (html : Text) (rules : List Rule)
    {e : Element} (he : e ∈ Node.elementsAll ((Page.read html).inject settings rules).nodes) :
    (e.holdsMarker = true →
      ∃ d ∈ Node.elementsAll (Page.read html).nodes, d.id = e.id ∧ d.name = e.name ∧
        (∃ round ∈ (Page.read html).withoutMarkers.rounds Rule.targets settings rules,
          ∃ q ∈ round.2, q.id = e.id) ∧
        (Style.Complete d.attributes.styleText → ContextGiven d.attributes e.attributes)) ∧
    (e.holdsMarker = false → Marker.marks e.attributes = false →
      ∃ d ∈ Node.elementsAll (Page.read html).nodes, d.id = e.id ∧ d.name = e.name ∧
        (∀ round ∈ (Page.read html).withoutMarkers.rounds Rule.targets settings rules,
          ∀ q ∈ round.2, q.id ≠ e.id) ∧
        e.attributes = d.attributes) := by
  have ht := (Page.wellNumbered_read html).plain_withoutMarkers
  have h := (Reached.start settings (Page.read html).withoutMarkers).run findsElements_targets ht
    rules
  rw [List.nil_append] at h
  generalize (Page.read html).withoutMarkers.rounds Rule.targets settings rules = rounds at h ⊢
  rcases h.mem_elements he with ⟨c, hc, rfl⟩ | ⟨x, -, he⟩
  · -- an element of the page without its markers has the start tag of one of the page
    rcases Marker.exists_of_mem_dropAll _ hc with ⟨d, hd, hid, hname, hattributes⟩
    have hholds := Element.holdsMarker_enrich_iff settings
      (insertions (Page.read html).withoutMarkers.nextId rounds) ht hc
    constructor
    · intro hmarker
      have hcount := hholds.1 hmarker
      refine ⟨d, hd, hid, hname, countAt_insertions_pos_iff.1 hcount, ?_⟩
      intro hcomplete
      rw [hattributes] at hcomplete ⊢
      exact contextGiven_additions settings hcount hcomplete
    · intro hmarker _
      have hcount :
          ¬ 0 < countAt (insertions (Page.read html).withoutMarkers.nextId rounds) c.id := by
        intro hcount
        rw [hholds.2 hcount] at hmarker
        exact absurd hmarker (by decide)
      refine ⟨d, hd, hid, hname, ?_, ?_⟩
      · intro round hround q hq hqid
        exact hcount (countAt_insertions_pos_iff.2 ⟨round, hround, q, hq, hqid⟩)
      · rw [hattributes]
        apply additions_of_ne settings
        intro x hx hxid
        exact hcount (countAt_pos_iff.2 ⟨x, hx, hxid⟩)
  · -- a marker
    constructor
    · intro hmarker
      rw [Insertion.holdsMarker_of_mem_elements_marker he] at hmarker
      exact absurd hmarker (by decide)
    · intro _ hmarks
      rw [(Insertion.of_mem_elements_marker he).2.1] at hmarks
      exact absurd hmarks (by decide)

/-- Three rules find a paragraph whose style ends in a semicolon with a comment before it and blanks
behind it. -/
theorem Html.Page.contextGiven_inject_paragraph :
    let html := "<p style=\"color: red/*;*/; \">a</p>".toList
    let rules : List Rule := [
      { selector := "p".toList, placement := .before, content := .literal "x".toList },
      { selector := "p".toList, placement := .after, content := .literal "y".toList },
      { selector := "p".toList, placement := .before, content := .literal "z".toList }]
    ∃ e ∈ Node.elementsAll ((Page.read html).inject {} rules).nodes,
      e.holdsMarker = true ∧ e.contents.length = 4 ∧
        e.attributes.styleText = "color: red/*;*/; position: relative".toList ∧
        ∃ d ∈ Node.elementsAll (Page.read html).nodes, d.id = e.id ∧
          Style.Complete d.attributes.styleText ∧ ContextGiven d.attributes e.attributes := by
  intro html rules
  have hcomplete : ∀ d ∈ Node.elementsAll (Page.read html).nodes,
      Style.Complete d.attributes.styleText := by
    decide +kernel
  have hhead : ∃ e ∈ Node.elementsAll ((Page.read html).inject {} rules).nodes,
      e.holdsMarker = true ∧ e.contents.length = 4 ∧
        e.attributes.styleText = "color: red/*;*/; position: relative".toList := by
    decide +kernel
  rcases hhead with ⟨e, he, hmarker, hcontents, hstyle⟩
  rcases (Page.contextGiven_inject {} html rules he).1 hmarker with ⟨d, hd, hid, -, -, hgiven⟩
  exact ⟨e, he, hmarker, hcontents, hstyle, d, hd, hid, hcomplete d hd, hgiven (hcomplete d hd)⟩

end GeneratedContent
