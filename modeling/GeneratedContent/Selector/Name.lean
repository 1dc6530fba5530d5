import GeneratedContent.Text.Blank
import GeneratedContent.Text.Letter

/-!
# Names in selectors

The smallest pieces that a selector is written with: filler, which is white space and closed
comments, and names and strings, in which a backslash escapes the character after it or names one by
its number.
-/

namespace GeneratedContent.Selector

/-! ## Filler -/

/-- What follows the end of a comment. -/
def afterComment? : Text → Option Text
  | [] => none
  | '*' :: '/' :: s => some s
  | _ :: s => afterComment? s

theorem length_afterComment? {s rest : Text} (h : afterComment? s = some rest) :
    rest.length < s.length := by
  fun_induction afterComment? s with
  | case1 => simp at h
  | case2 s =>
    obtain rfl : s = rest := by simpa using h
    simp only [List.length_cons]
    omega
  | case3 c s _ ih =>
    have := ih h
    simp only [List.length_cons]
    omega

/-- What follows a space or a line break at the front of a text. The two characters of a line break
count as one. -/
def afterSpace? : Text → Option Text
  | [] => none
  | '\r' :: '\n' :: s => some s
  | c :: s => if isSpace c then some s else none

/-- What follows a space, a line break or a closed comment at the front of a text. -/
def afterFiller? (s : Text) : Option Text :=
  match s with
  | '/' :: '*' :: inner => afterComment? inner
  | s => afterSpace? s

theorem length_afterSpace? {s rest : Text} (h : afterSpace? s = some rest) :
    rest.length < s.length := by
  unfold afterSpace? at h
  split at h
  · simp at h
  · obtain rfl : _ = rest := by simpa using h
    simp only [List.length_cons]
    omega
  · split at h
    · obtain rfl : _ = rest := by simpa using h
      simp
    · simp at h

theorem length_afterFiller? {s rest : Text} (h : afterFiller? s = some rest) :
    rest.length < s.length := by
  unfold afterFiller? at h
  split at h
  · have := length_afterComment? h
    simp only [List.length_cons]
    omega
  · exact length_afterSpace? h

/-- A text without the filler at its front. -/
def dropFiller (s : Text) : Text :=
  match _h : afterFiller? s with
  | some rest => dropFiller rest
  | none => s
termination_by s.length
decreasing_by exact length_afterFiller? _h

/-- A text without the comments at its front. -/
def dropComments (s : Text) : Text :=
  match s with
  | '/' :: '*' :: inner =>
    match _h : afterComment? inner with
    | some rest => dropComments rest
    | none => s
  | s => s
termination_by s.length
decreasing_by
  have := length_afterComment? _h
  simp only [List.length_cons]
  omega

/-- What follows the filler at the front of a text, if it holds white space. -/
def afterSpacedFiller? (s : Text) : Option Text :=
  (afterSpace? (dropComments s)).map dropFiller

/-! ## Escapes -/

/-- Whether a character ends a line. -/
def isLineEnd (c : Char) : Bool := c == '\n' || c == '\r' || c == '\x0C'

/-- The character that stands for what follows a backslash, and what follows it. A numeric escape
takes a space after it along; at the end of a text, or before its last line break, a backslash
stands for the replacement character; and no other line break can be escaped. -/
def cutEscape? (s : Text) : Option (Char × Text) :=
  match s with
  | [] => some ('\uFFFD', [])
  | c :: rest =>
    let digits := Text.escapeDigits s
    let behind := s.drop digits.length
    if digits ≠ [] then
      some (namedChar (Text.toNumber 16 digits), (afterSpace? behind).getD behind)
    else if s = ['\n'] then some ('\uFFFD', s)
    else if isLineEnd c then none
    else some (c, rest)

theorem length_cutEscape? {s rest : Text} {c : Char} (h : cutEscape? s = some (c, rest)) :
    rest.length ≤ s.length := by
  have hd (s t : Text) : ((afterSpace? (s.drop t.length)).getD (s.drop t.length)).length ≤ s.length := by
    have h₁ : (s.drop t.length).length ≤ s.length := by simp
    cases h₂ : afterSpace? (s.drop t.length) with
    | none => simp
    | some r =>
      have := length_afterSpace? h₂
      simp only [Option.getD_some]
      omega
  unfold cutEscape? at h
  split at h
  · simp_all
  · simp only at h
    split at h
    · obtain ⟨-, rfl⟩ := Prod.mk.inj (Option.some.inj h)
      exact hd _ _
    · split at h
      · obtain ⟨-, rfl⟩ := Prod.mk.inj (Option.some.inj h)
        exact Nat.le_refl _
      · split at h
        · simp at h
        · obtain ⟨-, rfl⟩ := Prod.mk.inj (Option.some.inj h)
          simp

/-! ## Names -/

/-- Whether a character can begin a name. -/
def isNameStart (c : Char) : Bool := c.isAlpha || c == '_' || 0xA0 ≤ c.toNat

/-- Whether a character can be part of a name. -/
def isNamePart (c : Char) : Bool := isNameStart c || c.isDigit || c == '-'

/-- The characters that a text begins with and that can be part of a name, escapes resolved, and what
follows them. -/
def cutNameParts (s : Text) : Text × Text :=
  match s with
  | [] => ([], [])
  | c :: t =>
    if c = '\\' then
      match _h : cutEscape? t with
      | some (e, rest) => (e :: (cutNameParts rest).1, (cutNameParts rest).2)
      | none => ([], s)
    else if isNamePart c then (c :: (cutNameParts t).1, (cutNameParts t).2)
    else ([], s)
termination_by s.length
decreasing_by
  all_goals
    try have := length_cutEscape? _h
    simp only [List.length_cons]
    omega

/-- Whether a text begins with what can begin a name. -/
def startsName : Text → Bool
  | [] => false
  | c :: s => if c = '\\' then (cutEscape? s).isSome else isNameStart c

/-- The name that a text begins with, escapes resolved, and what follows it. A name may begin with
a hyphen, and two hyphens begin a name of any kind. -/
def cutName? (s : Text) : Option (Text × Text) :=
  match s with
  | '-' :: '-' :: t => some ('-' :: '-' :: (cutNameParts t).1, (cutNameParts t).2)
  | '-' :: t => if startsName t then some ('-' :: (cutNameParts t).1, (cutNameParts t).2) else none
  | s => if startsName s then some (cutNameParts s) else none

/-! ## Strings -/

/-- What stands before the closing quote of a string, as written, and what follows the quote. A line
break that is not escaped makes a string invalid. -/
def cutQuoted? (quote : Char) : Text → Option (Text × Text)
  | [] => none
  | '\\' :: '\r' :: '\n' :: s =>
    (cutQuoted? quote s).map fun r => ('\\' :: '\r' :: '\n' :: r.1, r.2)
  | '\\' :: c :: s => (cutQuoted? quote s).map fun r => ('\\' :: c :: r.1, r.2)
  | c :: s =>
    if c = quote then some ([], s)
    else if isLineEnd c then none
    else (cutQuoted? quote s).map fun r => (c :: r.1, r.2)

/-- The text that the inside of a string stands for: escaped line breaks are left out. -/
def unescaped (s : Text) : Text :=
  match s with
  | [] => []
  | c :: t =>
    if c = '\\' then
      match _h : cutEscape? t with
      | some (e, rest) => e :: unescaped rest
      | none =>
        match _h' : afterSpace? t with
        | some rest => unescaped rest
        | none => c :: unescaped t
    else c :: unescaped t
termination_by s.length
decreasing_by
  all_goals
    try have := length_cutEscape? _h
    try have := length_afterSpace? _h'
    simp only [List.length_cons]
    omega

end GeneratedContent.Selector
