import GeneratedContent.Proofs.Css.Cutting
import GeneratedContent.Rule.Remainder

/-!
# What is left of a stylesheet

A stylesheet without its blocks for pseudo-elements is the stylesheet without exactly their spans,
and its blocks are exactly the other blocks, each moved up by what was cut out before it
(`withoutPseudoBlocks_exact`). So no block for a pseudo-element is left or comes up, and cutting
a second time changes nothing.
-/

namespace GeneratedContent

open Css

/-- Whether a prelude asks for a pseudo-element. -/
def asksForContent (prelude : Text) : Bool := !(OwnerGroup.ofPrelude prelude).isEmpty

/-- How many characters the blocks for pseudo-elements before an offset take up. -/
def cutBefore (css : Text) (offset : Nat) : Nat :=
  totalLength (((pseudoBlocks css).map Prod.fst).filter fun b => b.stop ≤ offset)

theorem map_fst_pseudoBlocks (css : Text) :
    (pseudoBlocks css).map Prod.fst = doomedOnes asksForContent (blocks css) := by
  simp [pseudoBlocks, doomedOnes, asksForContent, List.filter_map, Function.comp_def]

theorem cutBefore_eq (css : Text) (offset : Nat) :
    cutBefore css offset = doomedBefore asksForContent (blocks css) offset := by
  rw [cutBefore, map_fst_pseudoBlocks, doomedBefore]

theorem blocks_within (css : Text) : Within 0 css.length (blocks css) := by
  have h := scan_within 0 (lex css)
  rwa [flatten_lex, Nat.zero_add] at h

/-! ## Cutting by spans -/

/-- Cutting spans out one after the other leaves the text outside them. -/
theorem cutSpans_eq_outside {offset : Nat} {s : Text} {bs : List Block}
    (h : Within offset (offset + s.length) bs) :
    cutSpans offset (bs.map Block.span) s = outside offset (bs.map Block.span) s := by
  induction bs generalizing offset s with
  | nil => simp [cutSpans]
  | cons b bs ih =>
    rcases h.bounds b List.mem_cons_self with ⟨hlo, hlt, hhi⟩
    have hbs := h.of_cons
    have hrest : b.stop + (s.drop (b.stop - offset)).length = offset + s.length := by
      rw [List.length_drop]
      omega
    -- the other blocks lie behind this one, so they are cut out of what is behind it
    have hspans : ∀ span ∈ bs.map Block.span, b.stop ≤ span.1 := by
      intro span hspan
      rcases List.mem_map.1 hspan with ⟨b', hb', rfl⟩
      exact (hbs.bounds b' hb').1
    rw [List.map_cons, Block.span, outside_cons hlo (Nat.le_of_lt hlt) hhi hspans, cutSpans,
      ih (hrest ▸ hbs)]

/-- The text of what is left when the blocks for pseudo-elements are cut out of its lexemes. -/
theorem withoutPseudoBlocks_eq_flatten {css : Text} {ks : List Lexeme}
    (h : Cut asksForContent (lex css) ks) : withoutPseudoBlocks css = flatten ks := by
  have hspans : (pseudoBlocks css).map (fun p => (p.1.start, p.1.stop)) =
      (doomedOnes asksForContent (blocks css)).map Block.span := by
    rw [← map_fst_pseudoBlocks, List.map_map]
    rfl
  have hwithin : Within 0 (0 + css.length) (doomedOnes asksForContent (blocks css)) := by
    rw [Nat.zero_add]
    exact (blocks_within css).sublist List.filter_sublist
  rw [withoutPseudoBlocks, hspans, cutSpans_eq_outside hwithin, h.flatten_eq_outside 0, flatten_lex]
  rfl

theorem withoutPseudoBlocks_eq_outside (css : Text) :
    withoutPseudoBlocks css = outside 0 ((pseudoBlocks css).map fun p => p.1.span) css := by
  rcases exists_cut asksForContent (lex css) with ⟨ks, hcut⟩
  have hspans : (pseudoBlocks css).map (fun p => p.1.span) =
      doomedSpans asksForContent (blocks css) := by
    rw [doomedSpans, ← map_fst_pseudoBlocks, List.map_map]
    rfl
  rw [withoutPseudoBlocks_eq_flatten hcut, hcut.flatten_eq_outside 0, flatten_lex, hspans]
  rfl

/-! ## The blocks that are left -/

/-- The blocks that are left are the other blocks, where they now stand. -/
theorem blocks_withoutPseudoBlocks (css : Text) :
    blocks (withoutPseudoBlocks css) =
      ((blocks css).filter fun b => (OwnerGroup.ofPrelude b.prelude).isEmpty).map fun b =>
        b.movedUp (cutBefore css b.start) := by
  rcases exists_cut asksForContent (lex css) with ⟨ks, hcut⟩
  -- what is left reads back, so its blocks are found among the lexemes that are left
  have hlex : Lexed ks := hcut.lexed (lexed_lex css)
  have hscan : scan 0 ks = closeUp asksForContent 0 (blocks css) := hcut.scan_eq_closeUp 0 0
  rw [withoutPseudoBlocks_eq_flatten hcut, blocks, hlex, hscan,
    closeUp_eq_map (blocks_within css)]
  simp [asksForContent, cutBefore_eq]

/-- No block for a pseudo-element is left. -/
theorem pseudoBlocks_withoutPseudoBlocks (css : Text) :
    pseudoBlocks (withoutPseudoBlocks css) = [] := by
  rw [pseudoBlocks, blocks_withoutPseudoBlocks, List.filter_eq_nil_iff]
  intro p hp
  rcases List.mem_map.1 hp with ⟨b, hb, rfl⟩
  rcases List.mem_map.1 hb with ⟨b', hb', rfl⟩
  simpa [Block.movedUp] using (List.mem_filter.1 hb').2

/-- What is cut out before a block stands before it. -/
theorem cutBefore_le (css : Text) (offset : Nat) : cutBefore css offset ≤ offset := by
  have hall := blocks_within css
  have hbefore : Within 0 offset (((pseudoBlocks css).map Prod.fst).filter fun b =>
      b.stop ≤ offset) := by
    have hsub : (((pseudoBlocks css).map Prod.fst).filter fun b => b.stop ≤ offset).Sublist
        (blocks css) := by
      rw [map_fst_pseudoBlocks]
      exact List.filter_sublist.trans List.filter_sublist
    refine ⟨(hall.sublist hsub).apart, ?_⟩
    intro b hb
    have hb' := hall.bounds b (hsub.subset hb)
    have hle : b.stop ≤ offset := by simpa using (List.mem_filter.1 hb).2
    exact ⟨hb'.1, hb'.2.1, hle⟩
  have hle := hbefore.totalLength_le (Nat.zero_le _)
  rwa [Nat.zero_add] at hle

/-- Cutting the blocks for pseudo-elements out of a stylesheet leaves exactly the characters outside
their spans, and exactly the other blocks: with the same preludes and bodies, in the same order, each
moved up by what was cut out before it. What is left has no such block, and stays as it is when
it is cut again. -/
theorem withoutPseudoBlocks_exact (css : Text) :
    withoutPseudoBlocks css = outside 0 ((pseudoBlocks css).map fun p => p.1.span) css ∧
      blocks (withoutPseudoBlocks css) =
        ((blocks css).filter fun b => (OwnerGroup.ofPrelude b.prelude).isEmpty).map (fun b =>
          b.movedUp (cutBefore css b.start)) ∧
      (∀ b ∈ blocks css, cutBefore css b.start ≤ b.start) ∧
      pseudoBlocks (withoutPseudoBlocks css) = [] ∧
      withoutPseudoBlocks (withoutPseudoBlocks css) = withoutPseudoBlocks css := by
  have hnone := pseudoBlocks_withoutPseudoBlocks css
  refine ⟨withoutPseudoBlocks_eq_outside css, blocks_withoutPseudoBlocks css, ?_, hnone, ?_⟩
  · intro b _
    exact cutBefore_le css b.start
  · rw [withoutPseudoBlocks, hnone]
    rfl

end GeneratedContent
