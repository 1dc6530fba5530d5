import GeneratedContent.Injection.Marker
import GeneratedContent.Rule.Basic
import GeneratedContent.Selector.Matching

/-!
# Targets of rules

A rule applies to the elements that match its selector, in document order; markers are never among
them. A selector that states nothing is replaced by the name of the element at its end: the rule then
applies to all elements of that name, wherever they stand, and this is worth a warning.
-/

namespace GeneratedContent

open Html

/-- A warning that a rule applies to all elements of a name, since its selector states nothing. -/
structure Warning where
  /-- The selector of the rule. -/
  selector : Text
  /-- The placement of the rule. -/
  placement : Placement
  /-- The name of the elements that it applies to. -/
  tag : Text
deriving DecidableEq

/-- The text of a warning. -/
def Warning.message (w : Warning) : Text :=
  "Selector '".toList ++ w.selector ++ "' could not be evaluated; applying its ::".toList ++
    w.placement.name ++ " rule to every <".toList ++ w.tag ++ "> element.".toList

/-- The elements among places that are no markers. -/
def Html.unmarked (places : List Place) : List Place :=
  places.filter fun q => !Marker.marks q.attributes

namespace Html.Page

/-- The elements that match the selector that a text states, if it states one. -/
def select? (p : Page) (selector : Text) : Option (List Place) :=
  (Selector.read? selector).map fun s => unmarked (p.matching s)

/-- The elements with a name. -/
def selectNamed (p : Page) (name : Text) : List Place := unmarked (p.named name)

end Html.Page

namespace Rule

/-- The elements of a page that a rule applies to. -/
def targets (r : Rule) (p : Page) : List Place :=
  match p.select? r.selector with
  | some places => places
  | none =>
    match Owner.lastTag? r.selector with
    | some tag => p.selectNamed tag
    | none => []

/-- The warning that a rule gives rise to. -/
def warning? (r : Rule) : Option Warning :=
  match Selector.read? r.selector with
  | some _ => none
  | none => (Owner.lastTag? r.selector).map fun tag => ⟨r.selector, r.placement, tag⟩

end Rule

end GeneratedContent
