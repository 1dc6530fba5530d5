import GeneratedContent.Css.Lexeme

/-!
# Text without comments

Comments are taken out as wholes, and what looks like a comment inside a string stays. What stood
on the two sides of a comment is joined without a blank, so that a comment never separates words.
-/

namespace GeneratedContent.Css

/-- What a lexeme shows when comments are left out. -/
def Lexeme.visible : Lexeme → Text
  | .comment _ => []
  | .quoted t => t
  | .single c => [c]

/-- The text of lexemes put end to end, comments left out. -/
def visible (ls : List Lexeme) : Text := ls.flatMap Lexeme.visible

/-- A text without its comments. -/
def withoutComments (s : Text) : Text := visible (lex s)

end GeneratedContent.Css
