import GeneratedContent.Content.Resolve
import GeneratedContent.Counter.Run
import GeneratedContent.Html.Printer
import GeneratedContent.Injection.Target
import GeneratedContent.Style.Marker

/-!
# Injection of generated content

Rules are carried out one after the other. Each element that a rule applies to gets a marker with
the content of the rule, and becomes a positioning context for it. Markers of an earlier injection
are taken out before, so that they are replaced and not doubled.
-/

namespace GeneratedContent

open Html

/-- The declarations of one style that another does not have. -/
def Style.beyond (s other : Style) : Style :=
  .ofList (s.entries.filter fun e => other.get? e.1 ≠ some e.2)

namespace Rule

/-- The attributes of an element that gets a marker. -/
def markedAttributes (attributes : Attributes) : Attributes :=
  let style := Style.ofAttributes attributes
  let added := style.withPositionContext.beyond style
  if added.entries = [] then attributes else Style.addTo attributes added

/-- The marker for an element with the given attributes. -/
def marker (r : Rule) (counter : Option Nat) (attributes : Attributes) : Marker :=
  let text := r.content.resolve attributes.get?
  { label := r.placement.name
    text := match counter with
      | some value => Content.fill value text
      | none => text
    style := r.style.forMarker r.placement.name }

/-- Puts the marker of a rule into one element. -/
def mark (r : Rule) (settings : Settings) (p : Page) (target : Place) (counter : Option Nat) :
    Page :=
  let attributes := markedAttributes target.attributes
  let p := p.update target.id fun _ children => (attributes, children)
  p.insertMarker settings target.id (r.placement = .before) (r.marker counter attributes)

/-- The values of the counter of a rule for its targets, if its content needs one. -/
def counters (r : Rule) (targets : List Place) : List (Option Nat) :=
  if r.content.usesCounter then
    (Counter.values (targets.map fun q => q.parent?.map Place.id)).map some
  else targets.map fun _ => none

/-- Carries out a rule in a page, at the given targets. -/
def carryOut (r : Rule) (settings : Settings) (p : Page) (targets : List Place) : Page :=
  (targets.zip (r.counters targets)).foldl (fun p t => r.mark settings p t.1 t.2) p

end Rule

/-- A page after all rules have been carried out, in order. The targets of a rule are found in the
page that the rules before it have left. -/
def Html.Page.injectBy (find : Rule → Page → List Place) (settings : Settings) (p : Page)
    (rules : List Rule) : Page :=
  rules.foldl (fun p r => r.carryOut settings p (find r p)) p.withoutMarkers

/-- A page after all rules have been carried out, in order, at the elements that they apply to. -/
def Html.Page.inject (settings : Settings) (p : Page) (rules : List Rule) : Page :=
  p.injectBy Rule.targets settings rules

/-- A text, and the warnings that came up on the way to it. -/
structure Injected where
  /-- The page, as text. -/
  html : Text
  /-- The warnings, in order. -/
  warnings : List Warning

/-- The page that a text describes, after all rules have been carried out. Without rules it stays as
written. -/
def inject (settings : Settings) (html : Text) (rules : List Rule) :
    Except UnknownTree Injected :=
  if rules.isEmpty then .ok ⟨html, []⟩
  else
    match settings.unknownTree? with
    | some e => .error e
    | none =>
      .ok ⟨((Page.read html).inject settings rules).render, rules.filterMap Rule.warning?⟩

end GeneratedContent
