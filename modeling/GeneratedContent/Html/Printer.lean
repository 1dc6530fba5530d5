import GeneratedContent.Html.Page

/-!
# Pages as text

A page is written with its attributes sorted by name and with references for the characters that
would begin markup. What is written is read back with the same structure, but for asides and for
text that was raw.
-/

namespace GeneratedContent.Html

/-! ## Text and attribute values -/

/-- A character as it is written in text: an ampersand and the brackets of tags as references. -/
def escapedChar (c : Char) : Text :=
  if c = '&' then "&amp;".toList
  else if c = '<' then "&lt;".toList
  else if c = '>' then "&gt;".toList
  else [c]

/-- A text with references for what would begin markup. -/
def escaped (s : Text) : Text := s.flatMap escapedChar

/-- A character as it is written between double quotes. -/
def doublyQuotedChar (c : Char) : Text := if c = '"' then "&quot;".toList else [c]

/-- An attribute value in quotes: in double ones, unless it holds a double quote and no single
one. -/
def quotedValue (value : Text) : Text :=
  let value := escaped value
  if value.contains '"' && !value.contains '\'' then '\'' :: value ++ ['\'']
  else '"' :: value.flatMap doublyQuotedChar ++ ['"']

/-! ## The stated encoding -/

/-- The encoding that a page states when it states one. -/
def statedEncoding : Text := "utf-8".toList

/-- What a text goes on with behind `charset=` at its front: the semicolon after the encoding. -/
def afterEncoding? (s : Text) : Option Text :=
  (Text.after? "charset=".toList s).map (·.dropWhile (· != ';'))

theorem length_afterEncoding? {s rest : Text} (h : afterEncoding? s = some rest) :
    rest.length < s.length := by
  obtain ⟨t, ht, rfl⟩ := Option.map_eq_some_iff.1 h
  have h₁ := congrArg List.length (Text.after?_eq_some.1 ht)
  have h₂ := (List.dropWhile_sublist (· != ';') (l := t)).length_le
  rw [List.length_append, String.length_toList] at h₁
  have : "charset=".length = 8 := by decide
  omega

/-- Whether a character separates the parameters of a media type. -/
def separatesParameters (c : Char) : Bool := isBlank c || c == ';'

/-- A media type that is stated to have the encoding, from behind `before`: every encoding that it
names at the start of a line or behind a separator is replaced. -/
def withEncoding (before : Char) (s : Text) : Text :=
  match s with
  | [] => []
  | c :: s =>
    match _h : afterEncoding? (c :: s) with
    | some rest =>
      if separatesParameters before then
        "charset=".toList ++ statedEncoding ++ withEncoding '=' rest
      else c :: withEncoding c s
    | none => c :: withEncoding c s
termination_by s.length
decreasing_by
  · exact length_afterEncoding? _h
  all_goals simp

/-- The attributes as they are written: a `meta` element that states the encoding of the page states
the one it is written in. -/
def writtenAttributes (element : Text) (attributes : Attributes) : List (Text × Text) :=
  let charset := "charset".toList
  let content := "content".toList
  if element ≠ "meta".toList then attributes.entries
  else if attributes.contains charset then (attributes.insert charset statedEncoding).entries
  else
    match attributes.get? content, attributes.get? "http-equiv".toList with
    | some value, some header =>
      if Text.lower header = "content-type".toList then
        (attributes.insert content (withEncoding '\n' value)).entries
      else attributes.entries
    | _, _ => attributes.entries

/-! ## Nodes -/

/-- Puts an attribute before the first one with a greater name; names are compared by their code
points. -/
def putByName (e : Text × Text) : List (Text × Text) → List (Text × Text)
  | [] => [e]
  | f :: es => if e.1 < f.1 then e :: f :: es else f :: putByName e es

/-- Attributes sorted by name. -/
def sortedByName (es : List (Text × Text)) : List (Text × Text) := es.foldr putByName []

/-- An attribute in a start tag. -/
def attributeText (e : Text × Text) : Text := ' ' :: e.1 ++ '=' :: quotedValue e.2

/-- The attributes in a start tag, sorted by name. -/
def attributesText (element : Text) (attributes : Attributes) : Text :=
  (sortedByName (writtenAttributes element attributes)).flatMap attributeText

/-- What stands before and behind an aside. -/
def Aside.marks : Aside → Text × Text
  | .comment => ("<!--".toList, "-->".toList)
  | .documentType => ("<!DOCTYPE ".toList, ">\n".toList)
  | .declaration => ("<?".toList, "?>".toList)
  | .instruction => ("<?".toList, ">".toList)
  | .characterData => ("<![CDATA[".toList, "]]>".toList)

mutual

/-- A node as text, inside raw text or not. -/
def Node.render (raw : Bool) : Node → Text
  | .text content => if raw then content else escaped content
  | .aside kind content => kind.marks.1 ++ content ++ kind.marks.2
  | .element _ name attributes children =>
    let opening := '<' :: name ++ attributesText name attributes
    if isVoid name && children.isEmpty then opening ++ ['/', '>']
    else
      opening ++ '>' :: Node.renderAll (isRawText name) children ++ '<' :: '/' :: name ++ ['>']

/-- Nodes as text, one after the other. -/
def Node.renderAll (raw : Bool) : List Node → Text
  | [] => []
  | n :: ns => Node.render raw n ++ Node.renderAll raw ns

end

/-- A page as text. -/
def Page.render (p : Page) : Text := Node.renderAll false p.nodes

end GeneratedContent.Html
