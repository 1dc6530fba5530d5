import GeneratedContent.Text.Basic

/-!
# Content values

What a `content` declaration asks for: text, the value of a counter, the value of an attribute of
the element, several of these one after the other, or nothing at all.
-/

namespace GeneratedContent

/-- The value of a `content` declaration. -/
inductive Content where
  /-- Fixed text. -/
  | literal (text : Text)
  /-- The value of a counter, in a numbering style. -/
  | counter (name style : Text)
  /-- The value of an attribute of the element. -/
  | ofAttribute (name : Text)
  /-- No content. -/
  | empty
  /-- Several values in order. -/
  | sequence (parts : List Content)
deriving Repr, Inhabited

namespace Content

mutual

/-- Whether a value needs the value of a counter. -/
def usesCounter : Content → Bool
  | .counter _ _ => true
  | .sequence parts => anyUsesCounter parts
  | _ => false

/-- Whether one of several values needs the value of a counter. -/
def anyUsesCounter : List Content → Bool
  | [] => false
  | c :: cs => usesCounter c || anyUsesCounter cs

end

end Content

end GeneratedContent
