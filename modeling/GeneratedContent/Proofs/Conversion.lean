import GeneratedContent.Conversion
import GeneratedContent.Proofs.Html.Parting
import GeneratedContent.Proofs.Injection.Repetition

/-!
# Converting a page again

A page that has been converted is converted again with the same stylesheet. The markers of the first
conversion are taken out, and the rules are carried out in what is left. When that is the page as the
first conversion left it, without markers, and no rule looks at styles, the second conversion puts
the same markers into the same elements. What it may change is the style of an element with a marker:
a declaration that does not take effect, in a style that ends in an open string, comment or bracket,
is added once more. So the second conversion changes nothing just when the first has made every
element with a marker a positioning context (`convert_convert_iff`).
-/

namespace GeneratedContent

open Html

/-! ## Suffixes as they are written -/

theorem unquoted_contextSuffixes (count : Nat) : Unquoted (contextSuffixes count) := by
  induction count with
  | zero => exact ⟨rfl, List.not_mem_nil, List.not_mem_nil⟩
  | succ count ih =>
    rcases ih with ⟨hescaped, hdouble, hsingle⟩
    rw [Rule.contextSuffixes_succ]
    refine ⟨?_, ?_, ?_⟩
    · have hsuffix : escaped contextSuffix = contextSuffix := by decide
      rw [escaped_append, hescaped, hsuffix]
    · rw [List.mem_append, not_or]
      exact ⟨by decide, hdouble⟩
    · rw [List.mem_append, not_or]
      exact ⟨by decide, hsingle⟩

/-- As many markers again as an element has leave it as it is, or they write its start tag
differently. -/
theorem Rule.again (element : Text) (a : Attributes) (n : Nat) :
    ((n = 0 ∨ (Style.ofAttributes (markedAttributes^[n] a)).Positioned) ∧
        markedAttributes^[n] (markedAttributes^[n] a) = markedAttributes^[n] a) ∨
      (0 < n ∧ ¬ (Style.ofAttributes (markedAttributes^[n] a)).Positioned ∧
        Text.Parts (attributesText element (markedAttributes^[n] a))
          (attributesText element (markedAttributes^[n] (markedAttributes^[n] a)))) := by
  by_cases hn : n = 0
  · left
    subst hn
    exact ⟨Or.inl rfl, rfl⟩
  · by_cases hpos : (Style.ofAttributes (markedAttributes^[n] a)).Positioned
    · left
      exact ⟨Or.inr hpos, iterate_again_of_positioned hpos n⟩
    · -- the declaration stands last already, so it is added with a semicolon before it
      right
      have hn := Nat.pos_of_ne_zero hn
      refine ⟨hn, hpos, ?_⟩
      rcases iterate_again hn hpos with ⟨v, count, hv, hagain⟩
      have hunquoted := unquoted_contextSuffixes (count + 1)
      rw [hagain]
      exact parts_attributesText (by decide) hunquoted element hv

/-! ## What is left of the first conversion -/

theorem Marker.dropAll_markers (settings : Settings) (log : List Insertion) :
    Marker.dropAll (log.map (Insertion.marker settings)) = [] := by
  induction log with
  | nil => simp only [List.map_nil, Marker.dropAll]
  | cons x xs ih =>
    have hmarks := Marker.marks_attributes settings
      (x.rule.marker x.counter (Rule.markedAttributes x.target.attributes))
    have hdrop : Marker.drop (x.marker settings) = [] := by
      unfold Insertion.marker Marker.node
      simp only [Marker.drop, hmarks, if_true]
    simp only [List.map_cons, Marker.dropAll, hdrop, ih, List.nil_append]

/-- What is left of a page without the markers that insertions have put into it. -/
theorem Html.Page.Reached.withoutMarkers {settings : Settings} {t p : Page} {log : List Insertion}
    (ht : t.Plain) (h : Page.Reached settings t log p) :
    p.withoutMarkers.nodes =
      Node.enrichAll { attributes := (additions settings log).attributes } t.nodes := by
  show Marker.dropAll p.nodes = _
  rw [h.nodes]
  apply Marker.dropAll_enrichAll (marks_additions settings log)
  · intro i
    simp only [additions]
    rw [← List.map_reverse]
    exact Marker.dropAll_markers settings _
  · intro i
    exact Marker.dropAll_markers settings _
  · exact ht.unmarked

/-! ## The second time -/

/-- Whether a page, written and read again, has without its markers the shape that the page has
without its markers. -/
def Html.Page.Restores (p : Page) : Prop :=
  Node.shape (Page.read p.render).withoutMarkers.nodes = Node.shape p.withoutMarkers.nodes

instance (p : Page) : Decidable p.Restores := inferInstanceAs (Decidable (_ = _))

/-- Whether the elements that rules have been carried out at have become positioning contexts. -/
def Html.Page.Contexts (rounds : List (Rule × List Place)) (p : Page) : Prop :=
  ∀ x ∈ rounds, ∀ q ∈ x.2, ∀ e ∈ Node.elementsAll p.nodes, e.id = q.id →
    (Style.ofAttributes e.attributes).Positioned

instance (rounds : List (Rule × List Place)) (p : Page) : Decidable (p.Contexts rounds) :=
  inferInstanceAs (Decidable (∀ _ ∈ rounds, ∀ _ ∈ _, ∀ _ ∈ _, _ → _))

section Again

variable {settings : Settings} {t p : Page} {log : List Insertion}

/-- The elements that rules have been carried out at are those that insertions were for. -/
theorem Html.Page.Reached.contexts_iff (ht : t.Plain) {number : Nat}
    {rounds : List (Rule × List Place)} (hlog : log = insertions number rounds)
    (h : Page.Reached settings t log p) :
    p.Contexts rounds ↔ ∀ d ∈ Node.elementsAll t.nodes, 0 < countAt log d.id →
      (Style.ofAttributes ((additions settings log).attributes d.id d.attributes)).Positioned := by
  constructor
  · intro hcontexts d hd hcount
    rcases countAt_pos_iff.1 hcount with ⟨x, hx, hid⟩
    rw [hlog] at hx
    rcases exists_round_of_mem_insertions hx with ⟨round, hround, hq⟩
    have hmem : d.enrich (additions settings log) ∈ Node.elementsAll p.nodes := by
      rw [h.nodes, Node.mem_elementsAll_enrichAll]
      exact Or.inl ⟨d, hd, rfl⟩
    have hqid : (d.enrich (additions settings log)).id = x.target.id := hid.symm
    exact hcontexts round hround x.target hq (d.enrich (additions settings log)) hmem hqid
  · intro hpositioned round hround q hq e he hid
    rcases exists_insertion_of_mem_round hround hq with ⟨x, hx, htarget⟩
    rw [← hlog] at hx
    rcases h.mem_elements he with ⟨d, hd, rfl⟩ | ⟨y, hy, he⟩
    · have hxid : x.target.id = d.id := by
        rw [htarget, ← hid]
        rfl
      exact hpositioned d hd (countAt_pos_iff.2 ⟨x, hx, hxid⟩)
    · -- the number of a marker was free before, so no rule was carried out at it
      have hlt := ht.lt _ (h.targets x hx)
      have hle := (h.number_bounds hy).1
      rw [(Insertion.of_mem_elements_marker he).1] at hid
      rw [htarget, ← hid] at hlt
      omega

/-- What insertions add to a page when they are made once more in what they have left of it without
its markers. -/
def additionsAgain (settings : Settings) (log : List Insertion) : Additions :=
  { additions settings log with
    attributes := fun i a =>
      (additions settings log).attributes i ((additions settings log).attributes i a) }

/-- An element gets the same attributes once more, or attributes that are written differently: the
latter if it gets a marker and has become no positioning context. -/
theorem additionsAgain_cases (settings : Settings) (log : List Insertion) (d : Element) :
    ((0 < countAt log d.id →
        (Style.ofAttributes ((additions settings log).attributes d.id d.attributes)).Positioned) ∧
      (additions settings log).attributes d.id d.attributes =
        (additionsAgain settings log).attributes d.id d.attributes) ∨
    (0 < countAt log d.id ∧
      ¬ (Style.ofAttributes
        ((additions settings log).attributes d.id d.attributes)).Positioned ∧
      Text.Parts (attributesText d.name ((additions settings log).attributes d.id d.attributes))
        (attributesText d.name ((additionsAgain settings log).attributes d.id d.attributes))) := by
  have hagain := Rule.again d.name d.attributes (countAt log d.id)
  rw [← additions_attributes settings log d.id] at hagain
  rcases hagain with ⟨hpos, hsame⟩ | hagain
  · left
    refine ⟨fun hcount => ?_, hsame.symm⟩
    rcases hpos with hzero | hpos
    · omega
    · exact hpos
  · exact Or.inr hagain

/-- The same insertions once more, in what they have left without its markers, change nothing that is
written just when all elements with markers are positioning contexts. -/
theorem Html.Page.Reached.render_again_iff (h : Page.Reached settings t log p) :
    Node.renderAll false (Node.enrichAll (additions settings log)
        (Node.enrichAll { attributes := (additions settings log).attributes } t.nodes)) =
      p.render ↔ ∀ d ∈ Node.elementsAll t.nodes, 0 < countAt log d.id →
        (Style.ofAttributes ((additions settings log).attributes d.id d.attributes)).Positioned := by
  have hnodes : (additions settings log).SameNodes (additionsAgain settings log) :=
    ⟨fun _ => rfl, fun _ => rfl⟩
  have hcases := additionsAgain_cases settings log
  rw [Node.enrichAll_enrichAll, Page.render, h.nodes]
  show Node.renderAll false (Node.enrichAll (additionsAgain settings log) t.nodes) =
    Node.renderAll false (Node.enrichAll (additions settings log) t.nodes) ↔ _
  constructor
  · intro hrender d hd hcount
    have hparts := Node.parts_renderAll hnodes false t.nodes fun e _ => by
      rcases hcases e with ⟨-, hsame⟩ | ⟨-, -, hparts⟩
      · exact Or.inl hsame
      · exact Or.inr hparts
    rcases hparts with hsame | hparts
    · rcases hcases d with ⟨hpos, -⟩ | ⟨-, -, hparts⟩
      · exact hpos hcount
      · -- the start tags are the same here, so they do not part ways
        exact absurd (congrArg (attributesText d.name) (hsame d hd)) hparts.ne
    · exact absurd hrender.symm hparts.ne
  · intro hpositioned
    congr 1
    apply Node.enrichAll_congr
    intro d hd
    rcases hcases d with ⟨-, hsame⟩ | ⟨hcount, hnot, -⟩
    · exact ⟨hsame.symm, rfl, rfl⟩
    · exact absurd (hpositioned d hd hcount) hnot

/-- Bare of styles, what is left of a page without its markers is the page before. -/
theorem Html.Page.Reached.alike_withoutMarkers (ht : t.Plain) (h : Page.Reached settings t log p) :
    t.Alike Attributes.bare (fun i => i) p.withoutMarkers := by
  have hbare := Node.recastAll_enrichAll (f := .bare fun i => i)
    (x := { attributes := (additions settings log).attributes }) (y := {}) t.nodes fun e _ =>
      have hbeyond := beyondStyle_additions settings log e.id e.attributes
      ⟨Attributes.bare_of_beyondStyle_eq hbeyond, Node.recastAll_nil _, Node.recastAll_nil _⟩
  rw [Node.enrichAll_none, ← h.withoutMarkers ht] at hbare
  exact hbare.symm

/-- A page that is alike up to the order of attributes is alike up to styles too. -/
theorem Html.Page.Alike.bare_of_tidied {id : Nat → Nat} {q : Page}
    (h : p.Alike Attributes.tidied id q) : p.Alike Attributes.bare id q := by
  have hbare : ∀ (f : Nat → Nat) (ns : List Node), Node.recastAll ⟨f, Attributes.bare⟩ ns =
      Node.recastAll ⟨fun i => i, Attributes.bare⟩ (Node.recastAll ⟨f, Attributes.tidied⟩ ns) := by
    intro f ns
    have hview : Attributes.bare ∘ Attributes.tidied = Attributes.bare :=
      funext Attributes.bare_tidied
    rw [Node.recastAll_recastAll, hview]
    rfl
  calc Node.recastAll ⟨id, Attributes.bare⟩ p.nodes
      = Node.recastAll ⟨fun i => i, Attributes.bare⟩
          (Node.recastAll ⟨id, Attributes.tidied⟩ p.nodes) := hbare id p.nodes
    _ = Node.recastAll ⟨fun i => i, Attributes.bare⟩
          (Node.recastAll ⟨fun i => i, Attributes.tidied⟩ q.nodes) := congrArg _ h
    _ = Node.recastAll ⟨fun i => i, Attributes.bare⟩ q.nodes := (hbare (fun i => i) q.nodes).symm

/-- Carrying out rules that do not look at styles in a page of the shape that the first time has
left: the page becomes what the same insertions make of it. -/
theorem Html.Page.Reached.render_second (ht : t.Plain) (h : Page.Reached settings t log p)
    {rules : List Rule} (hrules : ∀ r ∈ rules, r.ignoresStyle = true)
    (hlog : log = insertions t.nextId (t.rounds Rule.targets settings rules)) {t' : Page}
    (ht' : t'.Plain) (hshape : Node.shape t'.nodes = Node.shape p.withoutMarkers.nodes) :
    (rules.foldl (fun p r => r.carryOut settings p (r.targets p)) t').render =
      Node.renderAll false (Node.enrichAll (additions settings log)
        (Node.enrichAll { attributes := (additions settings log).attributes } t.nodes)) := by
  -- the page between: what the first time has left, with the numbers that were free before it
  let s : Page := { p.withoutMarkers with nextId := t.nextId }
  have hts : t.Alike Attributes.bare (fun i => i) s := h.alike_withoutMarkers ht
  have hids : Node.ids s.nodes = Node.ids t.nodes := by
    have hmap := congrArg Node.ids hts
    simpa only [Node.ids_recastAll, List.map_id'] using hmap.symm
  have hs : s.WellNumbered := {
    nodup := hids ▸ ht.nodup
    pos := hids ▸ ht.pos
    lt := hids ▸ ht.lt
    next := ht.next }
  rcases Page.exists_renumbers hs hshape.symm with ⟨id, hid, hst'⟩
  -- without their styles all three pages are alike, so the rules leave the same traces
  have hidt : Renumbers id t t' := ⟨hid.zero, hids ▸ hid.ids, hid.next⟩
  have htt' : t.Alike Attributes.bare id t' := by
    have hrecast := congrArg (Node.recastAll ⟨id, fun a => a⟩) hts
    rw [Node.recastAll_recastAll, Node.recastAll_recastAll] at hrecast
    exact hrecast.trans hst'.bare_of_tidied
  have hsecond := (Reached.start settings t').run findsElements_targets ht' rules
  have htraces := run_alike ht ht' hidt htt' (Reached.start settings t) (Reached.start settings t')
    rfl hrules
  rw [List.nil_append] at hsecond htraces
  rw [← hlog, List.nil_append] at htraces
  -- the same insertions in the page between lead to a page of the shape of the second one
  let again : Page := ⟨Node.enrichAll (additions settings log) s.nodes, s.nextId + log.length⟩
  have hagain : Reached settings s log again := {
    nodes := rfl
    nextId := rfl
    numbers := h.numbers
    targets := fun x hx => hids ▸ h.targets x hx }
  have halike := hagain.alike Attributes.view_tidied ht'.toWellNumbered hid hst' hsecond htraces
  rw [← h.withoutMarkers ht]
  calc (rules.foldl (fun p r => r.carryOut settings p (r.targets p)) t').render
      = Node.renderAll false (Node.recastAll (.tidying fun i => i) _) :=
        (Node.renderAll_tidy (fun i => i) false _).symm
    _ = Node.renderAll false (Node.recastAll (.tidying id) again.nodes) :=
        congrArg (Node.renderAll false) halike.symm
    _ = Node.renderAll false again.nodes := Node.renderAll_tidy id false again.nodes

/-- Rules that do not look at styles change nothing the second time just when the first time has made
every element with a marker a positioning context. -/
theorem Html.Page.render_inject_inject_iff (hp : p.WellNumbered) {rules : List Rule}
    (hrules : ∀ r ∈ rules, r.ignoresStyle = true) (hrestores : (p.inject settings rules).Restores) :
    ((Page.read (p.inject settings rules).render).inject settings rules).render =
        (p.inject settings rules).render ↔
      (p.inject settings rules).Contexts
        (p.withoutMarkers.rounds Rule.targets settings rules) := by
  have ht := hp.plain_withoutMarkers
  have hfirst := (Reached.start settings p.withoutMarkers).run findsElements_targets ht rules
  rw [List.nil_append] at hfirst
  have ht' := (Page.wellNumbered_read (p.inject settings rules).render).plain_withoutMarkers
  have hsecond := hfirst.render_second ht hrules rfl ht' hrestores
  have hcontexts := hfirst.contexts_iff ht rfl
  have hagain := hfirst.render_again_iff
  rw [← hsecond, ← hcontexts] at hagain
  exact hagain

end Again

/-! ## Conversion -/

/-- Converting a page again with its stylesheet, when no rule looks at styles and the page is restored
without its markers: nothing changes just when the first conversion has made every element with a
marker a positioning context. -/
theorem convert_convert_iff {settings : Settings} {html css : Text} {first : Converted}
    (hfirst : convert settings html css = .ok first)
    (hrules : ∀ r ∈ Rule.extract settings.containerClasses css, r.ignoresStyle = true)
    (hrestores : ((Page.read html).inject settings
      (Rule.extract settings.containerClasses css)).Restores) :
    convert settings first.html css = .ok first ↔
      ((Page.read html).inject settings (Rule.extract settings.containerClasses css)).Contexts
        ((Page.read html).withoutMarkers.rounds Rule.targets settings
          (Rule.extract settings.containerClasses css)) := by
  have hpage := Page.render_inject_inject_iff (Page.wellNumbered_read html) hrules hrestores
  have hnone : ∀ p : Page, p.Contexts (Page.rounds Rule.targets settings
      (Page.read html).withoutMarkers []) := fun p x hx => absurd hx List.not_mem_nil
  by_cases hcss : css = []
  · -- without a stylesheet there are no rules
    have hextract : Rule.extract settings.containerClasses [] = [] := by
      have hblocks : pseudoBlocks [] = [] := by decide +kernel
      rw [Rule.extract, hblocks, List.flatMap_nil]
    subst hcss
    rw [convert, if_pos rfl, Except.ok.injEq] at hfirst
    rw [← hfirst, convert, if_pos rfl, hextract]
    exact iff_of_true rfl (hnone _)
  · cases hextract : Rule.extract settings.containerClasses css with
    | nil =>
      rw [convert, if_neg hcss, hextract] at hfirst
      obtain rfl : ⟨html, withoutPseudoBlocks css, []⟩ = first := Except.ok.inj hfirst
      rw [convert, if_neg hcss, hextract]
      exact iff_of_true rfl (hnone _)
    | cons r rules =>
      rw [hextract] at hpage
      rw [← hpage]
      cases htree : settings.unknownTree? with
      | some e =>
        simp only [convert, if_neg hcss, hextract, inject, htree, List.isEmpty_cons,
          Bool.false_eq_true, if_false] at hfirst
        exact absurd hfirst (by simp)
      | none =>
        simp only [convert, if_neg hcss, hextract, inject, htree, List.isEmpty_cons,
          Bool.false_eq_true, if_false, Except.ok.injEq] at hfirst ⊢
        rw [← hfirst]
        simp only [Converted.mk.injEq, and_true]

/-- A paragraph whose style ends in an open bracket: the declaration behind it does not take effect,
so every conversion adds it once more. -/
theorem convert_convert_openBracket :
    let html := "<p style=\"color: rgb(\">x</p>".toList
    let css := "p::before\x7bcontent:\"y\"\x7d".toList
    let settings : Settings := {}
    let rules := Rule.extract settings.containerClasses css
    let marker := "<span aria-hidden=\"true\" class=\"pseudo-before\" ".toList ++
      "data-pseudo-element=\"before\" style=\"position: absolute; ".toList ++
      "pointer-events: none; left: 0; top: 0\">y</span>".toList
    let first : Converted :=
      ⟨"<p style=\"color: rgb(; position: relative\">".toList ++ marker ++ "x</p>".toList, [], []⟩
    convert settings html css = .ok first ∧ (∀ r ∈ rules, r.ignoresStyle = true) ∧
      ((Page.read html).inject settings rules).Restores ∧
      convert settings first.html css ≠ .ok first := by
  intro html css settings rules marker first
  have hfirst : convert settings html css = .ok first := by decide +kernel
  have hrules : ∀ r ∈ rules, r.ignoresStyle = true := by decide +kernel
  have hrestores : ((Page.read html).inject settings rules).Restores := by decide +kernel
  refine ⟨hfirst, hrules, hrestores, ?_⟩
  rw [Ne, convert_convert_iff hfirst hrules hrestores]
  decide +kernel

end GeneratedContent
