import GeneratedContent.Conversion
import GeneratedContent.Proofs.Html.ReadBack
import GeneratedContent.Proofs.Injection.Marker
import GeneratedContent.Proofs.Series

/-!
# Rules that match nothing

Rules that match nothing put nothing into a page without markers. But a page is only left as it is
written when there are no rules at all: with rules it is read and written again, and so it changes
unless it is written in just the way in which it is written again (`convert_unmatched`). Canonical
pages are.
-/

namespace GeneratedContent

open Html

variable {settings : Settings} {p : Page}

/-! ## Pages that stay -/

theorem Html.Page.withoutMarkers_of_markers_eq_nil (h : p.markers = []) : p.withoutMarkers = p := by
  have hunmarked : ∀ e ∈ Node.elementsAll p.nodes, Marker.marks e.attributes = false := by
    intro e he
    rw [show p.nodes = p.place.contents from rfl, ← Place.map_element_descendants] at he
    obtain ⟨q, hq, rfl⟩ := List.mem_map.mp he
    exact Bool.eq_false_iff.mpr (List.filter_eq_nil_iff.mp h q hq)
  have hnone : Marker.dropAll [] = [] := by simp only [Marker.dropAll]
  have hnodes := Marker.dropAll_enrichAll (x := {}) (fun _ _ => rfl) (fun _ => hnone)
    (fun _ => hnone) p.nodes hunmarked
  rw [Node.enrichAll_none] at hnodes
  rw [withoutMarkers, hnodes]

/-- A rule whose selector matches nothing has no targets. -/
theorem Rule.targets_of_matching {r : Rule} {s : Selector} (hs : Selector.read? r.selector = some s)
    (h : p.matching s = []) : r.targets p = [] := by
  rw [Rule.targets, Page.select?, hs, Option.map_some, h]
  rfl

theorem Rule.carryOut_nil (r : Rule) (settings : Settings) (p : Page) :
    r.carryOut settings p [] = p := by
  rw [Rule.carryOut, List.zip_nil_left, List.foldl_nil]

/-- Rules without targets leave a page without markers as it is. -/
theorem Html.Page.inject_of_targets {rules : List Rule} (hp : p.markers = [])
    (h : ∀ r ∈ rules, r.targets p = []) : p.inject settings rules = p := by
  rw [inject, injectBy, withoutMarkers_of_markers_eq_nil hp]
  induction rules with
  | nil => rfl
  | cons r rules ih =>
    rw [List.foldl_cons, h r List.mem_cons_self, Rule.carryOut_nil]
    exact ih fun r' hr' => h r' (List.mem_cons_of_mem r hr')

theorem Rule.warning?_of_read? {r : Rule} {s : Selector} (hs : Selector.read? r.selector = some s) :
    r.warning? = none := by
  rw [Rule.warning?, hs]

/-! ## Conversion -/

section Conversion

variable {html css : Text} (htree : settings.unknownTree? = none)
  (hmarkers : (Page.read html).markers = [])
  (hrules : ∀ r ∈ Rule.extract settings.containerClasses css,
    ∃ s, Selector.read? r.selector = some s ∧ (Page.read html).matching s = [])

include htree hmarkers hrules

/-- Rules that match nothing have the page read and written again, unless there are none. -/
theorem convert_eq_of_unmatched : convert settings html css = .ok
    ⟨if Rule.extract settings.containerClasses css = [] then html else (Page.read html).render,
      withoutPseudoBlocks css, []⟩ := by
  by_cases hcss : css = []
  · have hnone : pseudoBlocks [] = [] := by decide +kernel
    rw [hcss, convert, if_pos rfl, Rule.extract_of_pseudoBlocks_eq_nil _ hnone, if_pos rfl,
      withoutPseudoBlocks_of_pseudoBlocks_eq_nil hnone]
  · rw [convert, if_neg hcss]
    cases hextract : Rule.extract settings.containerClasses css with
    | nil => rfl
    | cons r rules =>
      rw [hextract] at hrules
      have hwarnings : (r :: rules).filterMap Rule.warning? = [] := by
        refine List.filterMap_eq_nil_iff.mpr fun r' hr' => ?_
        obtain ⟨s, hs, -⟩ := hrules r' hr'
        exact Rule.warning?_of_read? hs
      have hinject : (Page.read html).inject settings (r :: rules) = Page.read html := by
        refine Page.inject_of_targets hmarkers fun r' hr' => ?_
        obtain ⟨s, hs, hnone⟩ := hrules r' hr'
        exact Rule.targets_of_matching hs hnone
      rw [if_neg (List.cons_ne_nil r rules)]
      simp only [inject, List.isEmpty_cons, Bool.false_eq_true, if_false, htree, hinject, hwarnings]

/-- What a stylesheet whose rules match nothing makes of a page without markers: the page is written
again if there is a rule, and so it stays as it is just when there is none or it was written in the
way in which it is written again, as canonical nodes are. -/
theorem convert_unmatched :
    ∃ r, convert settings html css = .ok r ∧ r.css = withoutPseudoBlocks css ∧ r.warnings = [] ∧
      r.html = (if Rule.extract settings.containerClasses css = [] then html
        else (Page.read html).render) ∧
      (r.html = html ↔
        Rule.extract settings.containerClasses css = [] ∨ (Page.read html).render = html) ∧
      ∀ ns, Node.CanonicalAll false ns → Node.renderAll false ns = html → r.html = html := by
  refine ⟨_, convert_eq_of_unmatched htree hmarkers hrules, rfl, rfl, rfl, ?_,
    fun ns hns hwritten => ?_⟩
  · split
    case isTrue h => simp [h]
    case isFalse h => simp [h]
  · rw [← hwritten, Page.render_read_renderAll hns, ite_self]

end Conversion

/-- An attribute without quotes gets them, for a rule that matches nothing. -/
theorem convert_unmatched_bareValue :
    let html := "<p class=a>x</p>".toList
    let css := "q::before\x7bcontent:\"y\"\x7d".toList
    let settings : Settings := {}
    settings.unknownTree? = none ∧ (Page.read html).markers = [] ∧
      (∀ r ∈ Rule.extract settings.containerClasses css,
        ∃ s, Selector.read? r.selector = some s ∧ (Page.read html).matching s = []) ∧
      ∃ r, convert settings html css = .ok r ∧ r.html = "<p class=\"a\">x</p>".toList ∧
        r.html ≠ html := by
  intro html css settings
  have hmarkers : (Page.read html).markers = [] := List.isEmpty_iff.mp (by decide +kernel)
  have hrules : ∀ r ∈ Rule.extract settings.containerClasses css,
      ∃ s, Selector.read? r.selector = some s ∧ (Page.read html).matching s = [] := by
    have hall : ∀ r ∈ Rule.extract settings.containerClasses css,
        ((Selector.read? r.selector).map ((Page.read html).matching ·|>.isEmpty)) = some true := by
      decide +kernel
    intro r hr
    obtain ⟨s, hs, hempty⟩ := Option.map_eq_some_iff.mp (hall r hr)
    exact ⟨s, hs, List.isEmpty_iff.mp hempty⟩
  obtain ⟨r, hr, -, -, hhtml, hiff, -⟩ := convert_unmatched (show settings.unknownTree? = none from rfl)
    hmarkers hrules
  refine ⟨rfl, hmarkers, hrules, r, hr, ?_, ?_⟩
  · rw [hhtml]
    decide +kernel
  · rw [Ne, hiff]
    decide +kernel

end GeneratedContent
