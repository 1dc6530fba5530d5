import GeneratedContent.Text.Letter

/-!
# Escapes in strings

A backslash takes away the meaning of the next character; before hexadecimal digits it names
a character by its number, and before a line break it removes the break.
-/

namespace GeneratedContent.Content

/-- Whether a character after a numeric escape belongs to it. -/
def isEscapeEnd (c : Char) : Bool := c == ' ' || c == '\t' || c == '\n'

/-- A text without its first character, if that belongs to a numeric escape before it. -/
def dropEscapeEnd : Text → Text
  | [] => []
  | c :: s => if isEscapeEnd c then s else c :: s

theorem length_dropEscapeEnd_le (s : Text) : (dropEscapeEnd s).length ≤ s.length := by
  unfold dropEscapeEnd
  split
  · simp
  · split <;> simp

/-- A text with its escapes replaced by what they stand for. -/
def decodeEscapes : Text → Text
  | [] => []
  | ['\\'] => ['\\']
  | '\\' :: c :: s =>
    if isHexDigit c then
      namedChar (Text.toNumber 16 (Text.escapeDigits (c :: s))) ::
        decodeEscapes (dropEscapeEnd ((c :: s).drop (Text.escapeDigits (c :: s)).length))
    else if c = '\n' then decodeEscapes s
    else c :: decodeEscapes s
  | c :: s => c :: decodeEscapes s
termination_by s => s.length
decreasing_by
  · have := length_dropEscapeEnd_le ((c :: s).drop (Text.escapeDigits (c :: s)).length)
    simp only [List.length_drop, List.length_cons] at this ⊢
    omega
  all_goals
    simp only [List.length_cons]
    omega

/-- What stands between the quotes of a string. A string that opens with a quote and does not end
in the same one is taken from after its opening quote. -/
def betweenQuotes (token : Text) : Text :=
  match token with
  | [] => []
  | q :: s =>
    if q = '"' ∨ q = '\'' then
      if s.getLast? = some q then s.dropLast else s
    else token

/-- The text that a string token stands for. -/
def unquote (token : Text) : Text := decodeEscapes (betweenQuotes token)

end GeneratedContent.Content
