import GeneratedContent.Html.ReferenceTable

/-!
# Character references

A page writes characters by name or by number. In text, a reference stands between an ampersand and
a semicolon and is recognised by whoever reads the text. In the value of an attribute, the longest
name that needs no semicolon is recognised even in front of other letters. Numbers that fall into
the upper control characters name what that byte means in the code page of Western Windows.
-/

namespace GeneratedContent.Html

/-- The characters that a name stands for. -/
def charactersNamed? (name : Text) : Option Text :=
  (namedCharacters.find? (·.name = name)).map NamedCharacter.characters

/-- The characters that a name stands for, if it needs no semicolon. -/
def bareCharactersNamed? (name : Text) : Option Text :=
  (namedCharacters.find? fun n => n.bare && n.name = name).map NamedCharacter.characters

/-- What the numbers from 0x80 to 0x9F name. -/
def upperControls : Text :=
  "€\u0081‚ƒ„…†‡ˆ‰Š‹Œ\u008DŽ\u008F\u0090‘’“”•–—˜™š›œ\u009DžŸ".toList

/-- Whether a number is a surrogate, which is half of a character at most. -/
def isSurrogate (n : Nat) : Bool := 0xD800 ≤ n && n ≤ 0xDFFF

/-- Whether a number names no character at all: it is a surrogate or too great. -/
def isNoCharacter (n : Nat) : Bool := isSurrogate n || 0x10FFFF < n

/-- The character that a number names. -/
def numberedChar (n : Nat) : Char :=
  if 0x80 ≤ n ∧ n ≤ 0x9F then upperControls.getD (n - 0x80) '\uFFFD'
  else if isNoCharacter n then '\uFFFD'
  else Char.ofNat n

/-- What a name between an ampersand and a semicolon stands for in text. An unknown name stays, with
its ampersand and without its semicolon. -/
def namedInText (name : Text) : Text := (charactersNamed? name).getD ('&' :: name)

/-! ## Attribute values -/

/-- Whether a number names a character that no page may contain: most control characters, and the
non-characters. -/
def isForbidden (n : Nat) : Bool :=
  (1 ≤ n && n ≤ 8) || n == 0xB || (0xE ≤ n && n ≤ 0x1F) || n == 0x7F ||
    (0xFDD0 ≤ n && n ≤ 0xFDEF) || n % 0x10000 == 0xFFFE || n % 0x10000 == 0xFFFF

/-- What a number stands for in a value. -/
def numberedInValue (n : Nat) : Text :=
  if n = 0 then ['\uFFFD']
  else if isNoCharacter n then ['\uFFFD']
  else if isForbidden n then []
  else [numberedChar n]

/-- Whether a character can be part of a name in a value. -/
def isNamePart (c : Char) : Bool :=
  !(c == '\t' || c == '\n' || c == '\x0C' || c == ' ' || c == '<' || c == '&' || c == '#' || c == ';')

/-- The longest of the front parts of a name that needs no semicolon, from a length down to two, put
in front of what it leaves. -/
def longestBare? (name : Text) : (length : Nat) → Option Text
  | 0 | 1 => none
  | length + 2 =>
    match bareCharactersNamed? (name.take (length + 2)) with
    | some cs => some (cs ++ name.drop (length + 2))
    | none => longestBare? name (length + 1)

/-- What a name stands for in a value, with or without a semicolon. -/
def namedInValue (name : Text) (closed : Bool) : Text :=
  let written := name ++ if closed then [';'] else []
  match if closed then charactersNamed? name else bareCharactersNamed? name with
  | some cs => cs
  | none => (longestBare? written (written.length - 1)).getD ('&' :: written)

/-- A text without a semicolon at its front. -/
def dropSemicolon : Text → Text
  | ';' :: s => s
  | s => s

theorem length_dropSemicolon_le (s : Text) : (dropSemicolon s).length ≤ s.length := by
  unfold dropSemicolon
  split <;> simp

/-- The digits of a number in a base that a text begins with, as what they stand for in a value, and
what follows them. -/
def cutNumber? (base : Nat) (isDigit : Char → Bool) (s : Text) : Option (Text × Text) :=
  if s.takeWhile isDigit = [] then none
  else some (numberedInValue (Text.toNumber base (s.takeWhile isDigit)),
    dropSemicolon (s.dropWhile isDigit))

/-- What the reference stands for whose inside a value begins with, and what follows it. -/
def cutReference? : Text → Option (Text × Text)
  | '#' :: 'x' :: s => cutNumber? 16 isHexDigit s
  | '#' :: 'X' :: s => cutNumber? 16 isHexDigit s
  | '#' :: s => cutNumber? 10 Char.isDigit s
  | s =>
    let name := (s.take 32).takeWhile isNamePart
    if name = [] then none
    else
      let rest := s.drop name.length
      some (namedInValue name (rest.head? = some ';'), dropSemicolon rest)

theorem length_cutNumber? {base : Nat} {isDigit : Char → Bool} {s shown rest : Text}
    (h : cutNumber? base isDigit s = some (shown, rest)) : rest.length ≤ s.length := by
  unfold cutNumber? at h
  split at h
  · simp at h
  · simp only [Option.some.injEq, Prod.mk.injEq] at h
    obtain ⟨-, rfl⟩ := h
    exact Nat.le_trans (length_dropSemicolon_le _) (List.dropWhile_sublist isDigit).length_le

theorem length_cutReference? {s shown rest : Text} (h : cutReference? s = some (shown, rest)) :
    rest.length ≤ s.length := by
  unfold cutReference? at h
  split at h
  · have := length_cutNumber? h
    simp only [List.length_cons]
    omega
  · have := length_cutNumber? h
    simp only [List.length_cons]
    omega
  · have := length_cutNumber? h
    simp only [List.length_cons]
    omega
  · simp only at h
    split at h
    · simp at h
    · simp only [Option.some.injEq, Prod.mk.injEq] at h
      obtain ⟨-, rfl⟩ := h
      refine Nat.le_trans (length_dropSemicolon_le _) ?_
      simp only [List.length_drop]
      omega

/-- The value of an attribute with its references replaced by what they stand for. -/
def decodeValue : Text → Text
  | [] => []
  | c :: s =>
    if c = '&' then
      match _h : cutReference? s with
      | some (shown, rest) => shown ++ decodeValue rest
      | none => c :: decodeValue s
    else c :: decodeValue s
termination_by s => s.length
decreasing_by
  · have := length_cutReference? _h
    simp only [List.length_cons]
    omega
  all_goals simp

end GeneratedContent.Html
