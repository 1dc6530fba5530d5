import GeneratedContent.Injection.Basic
import GeneratedContent.Proofs.Style.Completion
import GeneratedContent.Proofs.Style.Separation

/-!
# Styles of markers read back

Whatever a rule declares, the style of its marker says that it is positioned and takes no clicks
(`Style.get?_forMarker`). What is read from the style attribute of the marker is that style just when
its declarations stay apart (`Rule.read_marker_iff`). A bracket that the rule leaves open swallows all
that comes behind it, and then nothing is read about the position (`Rule.read_marker_bracket`).
-/

namespace GeneratedContent

open Html

/-! ## What is read from a marker -/

theorem Marker.ofAttributes_attributes (settings : Settings) (m : Marker) :
    Style.ofAttributes (m.attributes settings) = Style.read m.style.render := by
  have hstyle : (m.attributes settings).get? styleAttribute = some m.style.render :=
    OrderedMap.get?_insert_self _ _ _
  rw [Style.ofAttributes, hstyle, Option.getD_some]

instance (s : Style) : Decidable s.Separable :=
  decidable_of_iff ((∀ e ∈ s.entries, Style.read (Style.declarationText e) = .ofList [e]) ∧
      ∀ e ∈ s.entries.dropLast, Css.Ends ';' (Style.declarationText e))
    ⟨fun h => ⟨h.1, h.2⟩, fun h => ⟨h.alone, h.ends⟩⟩

/-- For every rule, the style that is read from the attributes of its marker is the one that it was
given, a positioned one that takes no clicks, just when the declarations stay apart. -/
theorem Rule.read_marker_iff (settings : Settings) (r : Rule) (counter : Option Nat)
    (a : Attributes) :
    let m := r.marker counter a
    (Style.ofAttributes (m.attributes settings) = m.style ↔ m.style.Separable) ∧
      (m.style.Separable →
        (Style.ofAttributes (m.attributes settings)).get? "position".toList =
            some "absolute".toList ∧
          (Style.ofAttributes (m.attributes settings)).get? "pointer-events".toList =
            some "none".toList) := by
  intro m
  have hiff : Style.ofAttributes (m.attributes settings) = m.style ↔ m.style.Separable := by
    rw [Marker.ofAttributes_attributes]
    exact Style.read_render_iff m.style
  refine ⟨hiff, fun h => ?_⟩
  rw [hiff.2 h]
  exact ⟨Style.get?_position_forMarker r.style r.placement.name,
    Style.get?_pointerEvents_forMarker r.style r.placement.name⟩

/-- A bracket that is closed stays with its colour; one that is still open when the block of the rule
ends takes in the position. -/
theorem Rule.read_marker_bracket :
    let closed := Rule.extract [] "p::before\x7bcolor:rgb(0,0,0)\x7d".toList
    let opened := Rule.extract [] "p::before\x7bcolor:rgb(0,0,0\x7d".toList
    (closed.length = 1 ∧ ∀ r ∈ closed, (r.marker none .empty).style.Separable ∧
      Style.ofAttributes ((r.marker none .empty).attributes {}) = (r.marker none .empty).style ∧
      (Style.ofAttributes ((r.marker none .empty).attributes {})).get? "position".toList =
        some "absolute".toList) ∧
    opened.length = 1 ∧ ∀ r ∈ opened, ¬ (r.marker none .empty).style.Separable ∧
      Style.ofAttributes ((r.marker none .empty).attributes {}) ≠ (r.marker none .empty).style ∧
      (Style.ofAttributes ((r.marker none .empty).attributes {})).get? "position".toList = none := by
  intro closed opened
  have hclosed : ∀ r ∈ closed, (r.marker none .empty).style.Separable := by decide +kernel
  have hopened : ∀ r ∈ opened, ¬ (r.marker none .empty).style.Separable := by decide +kernel
  have hposition : ∀ r ∈ opened, (Style.ofAttributes ((r.marker none .empty).attributes {})).get?
      "position".toList = none := by decide +kernel
  have hiff := fun r : Rule => Rule.read_marker_iff {} r none .empty
  exact ⟨⟨by decide +kernel, fun r hr => ⟨hclosed r hr, (hiff r).1.2 (hclosed r hr),
      ((hiff r).2 (hclosed r hr)).1⟩⟩,
    by decide +kernel, fun r hr => ⟨hopened r hr, fun h => hopened r hr ((hiff r).1.1 h),
      hposition r hr⟩⟩

end GeneratedContent
