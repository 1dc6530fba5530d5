import GeneratedContent.OrderedMap
import GeneratedContent.Text.Blank

/-!
# Styles

A style is an ordered map from property names to values. It is written as declarations one after
the other, and one style can be laid over another.
-/

namespace GeneratedContent

/-- Property values by property name, in the order of the declarations. -/
abbrev Style := OrderedMap Text Text

namespace Style

/-- A declaration as text. -/
def declarationText (e : Text × Text) : Text := e.1 ++ ": ".toList ++ e.2

/-- A style as text: its declarations in order, with a semicolon between them. -/
def render (s : Style) : Text := List.intercalate "; ".toList (s.entries.map declarationText)

/-- Appends the declarations of `added` to the text of a style, which is kept as written but for
trailing blanks. -/
def appendTo (written : Text) (added : Style) : Text :=
  let kept := Text.trimRight written
  let more := added.render
  if more = [] then kept
  else if kept = [] then more
  else if kept.getLast? = some ';' then kept ++ ' ' :: more
  else kept ++ [';', ' '] ++ more

/-- The declarations of `t` laid over those of `s`. -/
def overlay (s t : Style) : Style := s.insertAll t.entries

/-- Whether a property has a value that is not empty. -/
def sets (s : Style) (property : Text) : Bool :=
  match s.get? property with
  | some value => !value.isEmpty
  | none => false

/-- The declarations of `defaults` for the properties without a value in `s`, laid over `s`. -/
def withDefaults (s defaults : Style) : Style :=
  defaults.entries.foldl (fun s e => if s.sets e.1 then s else s.insert e.1 e.2) s

end Style

end GeneratedContent
