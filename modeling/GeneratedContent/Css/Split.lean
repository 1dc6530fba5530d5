import GeneratedContent.Css.Lexeme

/-!
# Splitting at the top level

Lists in a stylesheet are split at a separator that stands outside strings, comments and brackets.
Round and square brackets count together, and a closing bracket with nothing open is an ordinary
character.
-/

namespace GeneratedContent.Css

/-- Whether a character opens a bracket. -/
def isOpener (c : Char) : Bool := c == '(' || c == '['

/-- Whether a character closes a bracket. -/
def isCloser (c : Char) : Bool := c == ')' || c == ']'

/-- The pieces of lexemes between the separators outside the brackets, with `depth` brackets open
before them. -/
def splitLexemes (separator : Char) : (depth : Nat) → List Lexeme → List Text
  | _, [] => [[]]
  | depth, .single c :: ls =>
    if isOpener c then Text.attach [c] (splitLexemes separator (depth + 1) ls)
    else if isCloser c ∧ 0 < depth then Text.attach [c] (splitLexemes separator (depth - 1) ls)
    else if c = separator ∧ depth = 0 then [] :: splitLexemes separator depth ls
    else Text.attach [c] (splitLexemes separator depth ls)
  | depth, l :: ls => Text.attach l.text (splitLexemes separator depth ls)

/-- The pieces of a text between the separators at the top level; there is always at least one. -/
def splitTopLevel (separator : Char) (s : Text) : List Text := splitLexemes separator 0 (lex s)

end GeneratedContent.Css
