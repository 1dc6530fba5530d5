import GeneratedContent.Text.Basic

/-!
# Lexemes of a stylesheet

A stylesheet is read as comments, quoted strings and single characters. Only single characters can
carry structure; what stands in a comment or a string does not. The lexemes of a text, put end to
end, are the text again (`flatten_lex`).
-/

namespace GeneratedContent.Css

/-- A piece of a stylesheet, with its whole text. -/
inductive Lexeme where
  /-- From `/*` to the next `*/`, or to the end of the text. -/
  | comment (text : Text)
  /-- From a quote to the same quote, to before a line break, or to the end of the text. -/
  | quoted (text : Text)
  /-- Any other character. -/
  | single (c : Char)
deriving DecidableEq, Repr

/-- The text of a lexeme. -/
def Lexeme.text : Lexeme → Text
  | .comment t => t
  | .quoted t => t
  | .single c => [c]

/-- The text of lexemes put end to end. -/
def flatten (ls : List Lexeme) : Text := ls.flatMap Lexeme.text

/-- Cuts a text after the first `*/`; without one, everything comes before the cut. -/
def cutComment : Text → Text × Text
  | [] => ([], [])
  | '*' :: '/' :: s => (['*', '/'], s)
  | c :: s => (c :: (cutComment s).1, (cutComment s).2)

/-- Cuts the text after an opening quote where the string ends: after the closing quote, before
a line break, or at the end of the text. A backslash takes the next character with it. -/
def cutString (quote : Char) : Text → Text × Text
  | [] => ([], [])
  | '\\' :: c :: s => ('\\' :: c :: (cutString quote s).1, (cutString quote s).2)
  | c :: s =>
    if c = quote then ([c], s)
    else if c = '\n' then ([], c :: s)
    else (c :: (cutString quote s).1, (cutString quote s).2)

theorem append_cutComment (s : Text) : (cutComment s).1 ++ (cutComment s).2 = s := by
  fun_induction cutComment s <;> simp_all

theorem append_cutString (quote : Char) (s : Text) :
    (cutString quote s).1 ++ (cutString quote s).2 = s := by
  fun_induction cutString quote s <;> simp_all

theorem length_cutComment_le (s : Text) : (cutComment s).2.length ≤ s.length := by
  have h := congrArg List.length (append_cutComment s)
  simp only [List.length_append] at h
  omega

theorem length_cutString_le (quote : Char) (s : Text) :
    (cutString quote s).2.length ≤ s.length := by
  have h := congrArg List.length (append_cutString quote s)
  simp only [List.length_append] at h
  omega

/-- Whether a character opens a string. -/
def isQuote (c : Char) : Bool := c == '"' || c == '\''

/-- The lexemes of a text, from left to right. -/
def lex : Text → List Lexeme
  | [] => []
  | '/' :: '*' :: s => .comment ('/' :: '*' :: (cutComment s).1) :: lex (cutComment s).2
  | c :: s =>
    if isQuote c then .quoted (c :: (cutString c s).1) :: lex (cutString c s).2
    else .single c :: lex s
termination_by s => s.length
decreasing_by
  · have := length_cutComment_le s
    simp only [List.length_cons]
    omega
  · have := length_cutString_le c s
    simp only [List.length_cons]
    omega
  · simp

theorem flatten_lex (s : Text) : flatten (lex s) = s := by
  unfold flatten
  fun_induction lex s with
  | case1 => rfl
  | case2 s ih => simp [Lexeme.text, ih, append_cutComment]
  | case3 c s _ _ ih => simp [Lexeme.text, ih, append_cutString]
  | case4 c s _ _ ih => simp [Lexeme.text, ih]

end GeneratedContent.Css
