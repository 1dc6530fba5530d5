import GeneratedContent.Content.Escape
import GeneratedContent.Text.Blank

/-!
# Tokens of a content value

A content value is a row of strings, function calls and words. Brackets that open no call, and
blanks, belong to no token. A string or a call that is not closed goes on to the end of the value;
the arguments of a call end at the first closing bracket, even one in quotes.
-/

namespace GeneratedContent.Content

/-- A token of a content value. -/
inductive Token where
  /-- A string with its quotes. -/
  | quoted (text : Text)
  /-- A call: the name, what stands in the brackets, and the whole as written. -/
  | call (name arguments written : Text)
  /-- Anything else without blanks, quotes and round brackets. -/
  | word (text : Text)
deriving DecidableEq, Repr

namespace Token

/-- Cuts the text after an opening quote behind the closing quote. Without one, the string takes
everything but a lone backslash at the end. -/
def cutString (quote : Char) : Text → Text × Text
  | [] => ([], [])
  | ['\\'] => ([], ['\\'])
  | '\\' :: c :: s => ('\\' :: c :: (cutString quote s).1, (cutString quote s).2)
  | c :: s =>
    if c = quote then ([c], s) else (c :: (cutString quote s).1, (cutString quote s).2)

theorem length_cutString_le (quote : Char) (s : Text) :
    (cutString quote s).2.length ≤ s.length := by
  fun_induction cutString quote s <;> simp_all <;> omega

/-- Whether a character can be part of the name of a function. -/
def isNameChar (c : Char) : Bool := c.isAlpha || c == '-'

/-- Whether a character can be part of a word. -/
def isWordPart (c : Char) : Bool :=
  !isBlank c && c != '"' && c != '\'' && c != '(' && c != ')'

/-- The call that a text begins with, and what follows it. -/
def cutCall? (s : Text) : Option (Token × Text) :=
  let name := s.takeWhile isNameChar
  if name = [] then none
  else
    match (s.dropWhile isNameChar).dropWhile isBlank with
    | '(' :: inner =>
      let gap := (s.dropWhile isNameChar).takeWhile isBlank
      let arguments := inner.takeWhile (· != ')')
      match inner.dropWhile (· != ')') with
      | [] => some (.call name arguments (name ++ gap ++ '(' :: arguments), [])
      | _ :: rest => some (.call name arguments (name ++ gap ++ '(' :: arguments ++ [')']), rest)
    | _ => none

theorem length_cutCall? {s rest : Text} {t : Token} (h : cutCall? s = some (t, rest)) :
    rest.length < s.length := by
  have h₁ := (List.dropWhile_sublist isNameChar (l := s)).length_le
  have h₂ := (List.dropWhile_sublist isBlank (l := s.dropWhile isNameChar)).length_le
  unfold cutCall? at h
  simp only at h
  split at h
  · simp at h
  · split at h
    · rename_i inner hi
      rw [hi, List.length_cons] at h₂
      have h₃ := (List.dropWhile_sublist (· != ')') (l := inner)).length_le
      split at h
      · simp only [Option.some.injEq, Prod.mk.injEq] at h
        obtain ⟨-, rfl⟩ := h
        simp only [List.length_nil]
        omega
      · rename_i hr
        rw [hr, List.length_cons] at h₃
        simp only [Option.some.injEq, Prod.mk.injEq] at h
        obtain ⟨-, rfl⟩ := h
        omega
    · simp at h

/-- The tokens of a content value, from left to right. -/
def read : Text → List Token
  | [] => []
  | c :: s =>
    if c = '"' ∨ c = '\'' then .quoted (c :: (cutString c s).1) :: read (cutString c s).2
    else
      match _h : cutCall? (c :: s) with
      | some (token, rest) => token :: read rest
      | none =>
        if isWordPart c then .word (c :: s.takeWhile isWordPart) :: read (s.dropWhile isWordPart)
        else read s
termination_by s => s.length
decreasing_by
  · have := length_cutString_le c s
    simp only [List.length_cons]
    omega
  · exact length_cutCall? _h
  · have := (List.dropWhile_sublist isWordPart (l := s)).length_le
    simp only [List.length_cons]
    omega
  · simp

end Token

end GeneratedContent.Content
