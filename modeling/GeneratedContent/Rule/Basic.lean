import GeneratedContent.Content.Reader
import GeneratedContent.Css.Block
import GeneratedContent.Rule.Owner
import GeneratedContent.Rule.PseudoElement
import GeneratedContent.Style.Declaration

/-!
# Rules for generated content

A block of a stylesheet whose prelude asks for pseudo-elements yields one rule for each placement
it names: which elements get the content, what it is, and how it is styled.
-/

namespace GeneratedContent

/-- A rule for generated content. -/
structure Rule where
  /-- The selector of the elements that get the content. -/
  selector : Text
  /-- Where the content goes. -/
  placement : Placement
  /-- What the content is. -/
  content : Content := .literal []
  /-- The other declarations. -/
  style : Style := .empty

/-- The blocks of a stylesheet that ask for pseudo-elements, with their owner groups. -/
def pseudoBlocks (css : Text) : List (Css.Block × List OwnerGroup) :=
  ((Css.blocks css).map fun b => (b, OwnerGroup.ofPrelude b.prelude)).filter fun p => !p.2.isEmpty

/-- What the body of a rule states: its content and its style. -/
structure RuleBody where
  /-- The content; empty text where none is declared. -/
  content : Content := .literal []
  /-- The other declarations. -/
  style : Style := .empty

namespace RuleBody

/-- Takes in one more declaration. One whose value is blank is passed over, whatever its property. -/
def apply (body : RuleBody) (d : Declaration) : RuleBody :=
  let value := Text.trim d.value
  if value = [] then body
  else if d.property = "content".toList then { body with content := Content.read value }
  else
    let kept := Declaration.normalizeValue value
    if kept = [] then body else { body with style := body.style.insert d.property kept }

/-- What a declaration list states. -/
def read (list : Text) : RuleBody := (Declaration.read list).foldl apply {}

end RuleBody

namespace Rule

/-- The rules of one block: one for each placement that has an owner left. -/
def ofBlock (classes : List Text) (b : Css.Block) (groups : List OwnerGroup) : List Rule :=
  let body := RuleBody.read b.body
  groups.filterMap fun g =>
    let selectors := Owner.targets classes g.owners
    if selectors = [] then none
    else some ⟨List.intercalate ", ".toList selectors, g.placement, body.content, body.style⟩

/-- The rules for generated content in a stylesheet, in source order, with the compounds of the
given container classes taken out of their selectors. -/
def extract (classes : List Text) (css : Text) : List Rule :=
  (pseudoBlocks css).flatMap fun p => ofBlock classes p.1 p.2

end Rule

end GeneratedContent
