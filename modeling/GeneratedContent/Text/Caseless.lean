import GeneratedContent.Text.Lowercase

/-!
# Matching without regard to case

Two characters are the same letter when their lower cases agree, or when their lower cases are two
forms of one letter: the dotless i beside the i, the long s beside the s, the final sigma beside
the common one, and their like.
-/

namespace GeneratedContent

/-- The lower-case forms, beyond equal ones, that count as the same letter. -/
def letterForms : List (List Char) := [
  ['i', 'ı'], ['s', 'ſ'], ['µ', 'μ'], ['\u0345', 'ι', '\u1FBE'], ['\u0390', '\u1FD3'],
  ['\u03B0', '\u1FE3'], ['β', 'ϐ'], ['ε', 'ϵ'], ['θ', 'ϑ'], ['κ', 'ϰ'], ['π', 'ϖ'], ['ρ', 'ϱ'],
  ['ς', 'σ'], ['φ', 'ϕ'], ['в', '\u1C80'], ['д', '\u1C81'], ['о', '\u1C82'], ['с', '\u1C83'],
  ['т', '\u1C84', '\u1C85'], ['ъ', '\u1C86'], ['ѣ', '\u1C87'], ['\u1C88', '\uA64B'],
  ['ṡ', 'ẛ'], ['\uFB05', '\uFB06']]

/-- Whether two characters are the same letter. -/
def sameLetter (a b : Char) : Bool :=
  let a := lowerChar a
  let b := lowerChar b
  a == b || letterForms.any fun forms => forms.contains a && forms.contains b

namespace Text

/-- What follows `word`, in letters of any case, in a text that begins with it. -/
def afterCaseless? : (word : Text) → Text → Option Text
  | [], s => some s
  | _ :: _, [] => none
  | w :: word, c :: s => if sameLetter w c then afterCaseless? word s else none

theorem afterCaseless?_length {word s rest : Text} (h : afterCaseless? word s = some rest) :
    s.length = word.length + rest.length := by
  fun_induction afterCaseless? word s with
  | case1 s => simp_all
  | case2 => simp at h
  | case3 w word c s hs ih => have := ih h; simp only [List.length_cons]; omega
  | case4 => simp at h

/-- Whether two texts are the same in letters of any case. -/
def sameCaseless (a b : Text) : Bool := afterCaseless? a b == some []

end Text

end GeneratedContent
