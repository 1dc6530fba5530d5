import GeneratedContent.Html.Edit
import GeneratedContent.Settings
import GeneratedContent.Style.Declaration

/-!
# Markers

A marker is an element that stands in for generated content. It is told from the elements of the
page by an attribute, which every marker has and which makes an element of the page a marker too.
-/

namespace GeneratedContent

open Html

/-- What a marker shows. -/
structure Marker where
  /-- What kind of generated content the marker stands in for. -/
  label : Text
  /-- The text of the marker. -/
  text : Text
  /-- The style of the marker. -/
  style : Style

namespace Marker

/-- The attribute that tells markers from the elements of the page. -/
def sign : Text := "data-pseudo-element".toList

/-- The attributes of a marker. It is hidden from readers that do not see the page. -/
def attributes (settings : Settings) (m : Marker) : Attributes :=
  .ofList [
    ("class".toList, settings.markerClassPrefix ++ m.label),
    ("aria-hidden".toList, "true".toList),
    (sign, m.label),
    ("style".toList, m.style.render)]

/-- The element of a marker, with a number. Without text it has no child. -/
def node (settings : Settings) (m : Marker) (id : Nat) : Node :=
  .element id settings.markerName (m.attributes settings)
    (if m.text = [] then [] else [.text m.text])

/-- Whether attributes are those of a marker. -/
def marks (attributes : Attributes) : Bool := attributes.contains sign

mutual

/-- What is left of a node without the markers inside it: nothing of a marker. -/
def drop : Node → List Node
  | .element id name attributes children =>
    if marks attributes then [] else [.element id name attributes (dropAll children)]
  | .text content => [.text content]
  | .aside kind content => [.aside kind content]

/-- Nodes without the markers among them and inside them. What is left stays in separate nodes. -/
def dropAll : List Node → List Node
  | [] => []
  | n :: ns => drop n ++ dropAll ns

end

end Marker

namespace Html.Page

/-- The markers of a page, in document order. -/
def markers (p : Page) : List Place := p.place.descendants.filter (Marker.marks ·.attributes)

/-- A page without its markers. -/
def withoutMarkers (p : Page) : Page := { p with nodes := Marker.dropAll p.nodes }

/-- Adds a marker to the element with a number, before or after what it holds. -/
def insertMarker (p : Page) (settings : Settings) (id : Nat) (first : Bool) (m : Marker) : Page :=
  p.insert id first (m.node settings)

end Html.Page

/-! ## Inline styles -/

/-- The attribute that holds the style of an element. -/
def styleAttribute : Text := "style".toList

/-- The style that the attributes of an element state. -/
def Style.ofAttributes (attributes : Attributes) : Style :=
  Style.read ((attributes.get? styleAttribute).getD [])

/-- Attributes with declarations added to the style they state. -/
def Style.addTo (attributes : Attributes) (added : Style) : Attributes :=
  attributes.insert styleAttribute
    (Style.appendTo ((attributes.get? styleAttribute).getD []) added)

/-- Adds declarations to the style of the element with a number. -/
def Html.Page.addStyle (p : Page) (id : Nat) (added : Style) : Page :=
  p.update id fun attributes children => (Style.addTo attributes added, children)

end GeneratedContent
