import GeneratedContent.OrderedMap
import GeneratedContent.Text.Basic

/-!
# Nodes of a page

A page is a list of nodes: elements, text, and asides such as comments that carry no text. Every
element has a number of its own within its page, so that it can be told apart from another that
looks the same. The number zero is left for the page itself.
-/

namespace GeneratedContent.Html

/-- Attribute values by attribute name, in the order of the source. -/
abbrev Attributes := OrderedMap Text Text

/-- The kinds of nodes that are neither elements nor text. -/
inductive Aside where
  | comment
  | documentType
  | declaration
  | instruction
  | characterData
deriving DecidableEq, Repr

/-- A node of a page. -/
inductive Node where
  /-- An element: its number, its name, its attributes and its children. -/
  | element (id : Nat) (name : Text) (attributes : Attributes) (children : List Node)
  /-- Text, with its references resolved. -/
  | text (content : Text)
  /-- A node that carries no text. -/
  | aside (kind : Aside) (content : Text)

/-- The elements without content, which have a start tag only. -/
def voidNames : List Text := [
  "area", "base", "basefont", "bgsound", "br", "col", "command", "embed", "frame", "hr", "image",
  "img", "input", "isindex", "keygen", "link", "menuitem", "meta", "nextid", "param", "source",
  "spacer", "track", "wbr"].map String.toList

/-- Whether an element of a name has no content. -/
def isVoid (name : Text) : Bool := voidNames.contains name

/-- Whether the text of an element of a name is taken as it is, without tags and references. -/
def isRawText (name : Text) : Bool := name == "script".toList || name == "style".toList

/-- Whether blanks count in the text of an element of a name. -/
def keepsBlanks (name : Text) : Bool := name == "pre".toList || name == "textarea".toList

end GeneratedContent.Html
