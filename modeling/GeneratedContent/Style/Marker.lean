import GeneratedContent.Style.Basic
import GeneratedContent.Text.Lowercase

/-!
# Styles of markers and of their elements

A marker stands in for generated content: it lies above the text, takes no clicks, and sits in
a corner of its element unless its rule says where. So that the corner is that of the element, the
element becomes a positioning context.
-/

namespace GeneratedContent.Style

/-- The declaration that makes an element a positioning context. -/
def relative : Style := .ofList [("position".toList, "relative".toList)]

/-- A style with a positioning context: a position that is set and not `static` stays. -/
def withPositionContext (s : Style) : Style :=
  let position := Text.lower (Text.trim ((s.get? "position".toList).getD []))
  if position = [] ∨ position = "static".toList then s.overlay relative else s

/-- What every marker's style says. -/
def markerBase : Style :=
  .ofList [("position".toList, "absolute".toList), ("pointer-events".toList, "none".toList)]

/-- The side that a marker goes to by default: left for `before`, right for any other label. -/
def defaultSide (label : Text) : Text :=
  if label = "before".toList then "left".toList else "right".toList

/-- The style of a marker: the rule's declarations, what every marker's style says, and on each
axis without an offset the default corner. -/
def forMarker (rule : Style) (label : Text) : Style :=
  let zero : Text := "0".toList
  let s := rule.overlay markerBase
  let s := if s.sets "left".toList || s.sets "right".toList then s
    else s.overlay (.ofList [(defaultSide label, zero)])
  if s.sets "top".toList || s.sets "bottom".toList then s
  else s.overlay (.ofList [("top".toList, zero)])

end GeneratedContent.Style
