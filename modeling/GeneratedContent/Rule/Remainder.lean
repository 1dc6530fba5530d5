import GeneratedContent.Rule.Basic

/-!
# The rest of a stylesheet

Once the rules for generated content have been carried out in a document, the stylesheet goes on
without them: their blocks are cut out, and everything else stays as written.
-/

namespace GeneratedContent

/-- A text, standing at an offset, without the spans between the given offsets. -/
def cutSpans : (offset : Nat) → List (Nat × Nat) → Text → Text
  | _, [], s => s
  | offset, (start, stop) :: spans, s =>
    s.take (start - offset) ++ cutSpans stop spans (s.drop (stop - offset))

/-- A stylesheet without the blocks that ask for pseudo-elements. -/
def withoutPseudoBlocks (css : Text) : Text :=
  cutSpans 0 ((pseudoBlocks css).map fun p => (p.1.start, p.1.stop)) css

end GeneratedContent
