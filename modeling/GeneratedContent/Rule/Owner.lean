import GeneratedContent.Text.Blank
import GeneratedContent.Text.Letter

/-!
# Owners of generated content

The owner of a pseudo-element is written for a page in which a container holds the text. The text
alone has no container, so the compounds that stand for it are taken out of the selector. An owner
that any element can be is not meant for the text and is passed over.
-/

namespace GeneratedContent.Owner

/-- Whether a character is a combinator between compounds, other than the blank. -/
def isCombinator (c : Char) : Bool := c == '>' || c == '+' || c == '~'

/-- Whether a character can be part of the name of a tag or a class. -/
def isNamePart (c : Char) : Bool := isWordChar c || c == '-'

/-- Whether what follows a character belongs to the same compound, so that none begins there. -/
def holdsOn (c : Char) : Bool := isNamePart c || c == '.' || c == '#' || c == ':'

/-- What follows a class name that the text begins with and that does not go on; of several, the
one that comes first in the list. The last character of what was taken comes with it. -/
def afterClass? (classes : List Text) (s : Text) : Option (Char × Text) :=
  classes.findSome? fun name =>
    match Text.after? name s with
    | some rest => if rest.head?.any isNamePart then none else some (name.getLastD '.', rest)
    | none => none

/-- What follows a container compound that the text begins with: a container class, with a tag name
before it or without. -/
def afterContainer? (classes : List Text) (s : Text) : Option (Char × Text) :=
  let rest := if s.head?.any Char.isAlpha then s.dropWhile isNamePart else s
  match rest with
  | '.' :: rest => afterClass? classes rest
  | _ => none

theorem length_afterClass? {classes : List Text} {s rest : Text} {last : Char}
    (h : afterClass? classes s = some (last, rest)) : rest.length ≤ s.length := by
  obtain ⟨name, -, h⟩ := List.exists_of_findSome?_eq_some h
  split at h
  · rename_i r hr
    split at h
    · simp at h
    · obtain ⟨-, rfl⟩ : name.getLastD '.' = last ∧ r = rest := by simpa using h
      have := congrArg List.length (Text.after?_eq_some.1 hr)
      rw [List.length_append] at this
      omega
  · simp at h

theorem length_afterContainer? {classes : List Text} {s rest : Text} {last : Char}
    (h : afterContainer? classes s = some (last, rest)) : rest.length < s.length := by
  unfold afterContainer? at h
  simp only at h
  split at h
  · rename_i tail ht
    have h₁ := length_afterClass? h
    have h₂ : (if s.head?.any Char.isAlpha then s.dropWhile isNamePart else s).length ≤ s.length := by
      split
      · exact (List.dropWhile_sublist _).length_le
      · exact Nat.le_refl _
    rw [ht, List.length_cons] at h₂
    omega
  · simp at h

/-- A text with a blank for each of its container compounds; `before` is the character before the
text. -/
def dropContainers (classes : List Text) (before : Option Char) : Text → Text
  | [] => []
  | c :: s =>
    if before.any holdsOn then c :: dropContainers classes (some c) s
    else
      match _h : afterContainer? classes (c :: s) with
      | some (last, rest) => ' ' :: dropContainers classes (some last) rest
      | none => c :: dropContainers classes (some c) s
termination_by s => s.length
decreasing_by
  · simp
  · exact length_afterContainer? _h
  · simp

/-- A selector without a combinator at its front. -/
def dropCombinator : Text → Text
  | [] => []
  | c :: s => if isCombinator c then Text.trimLeft s else c :: s

/-- A selector without container compounds, its words one space apart, and without the combinator
that led from a container to the text. -/
def clean (classes : List Text) (selector : Text) : Text :=
  dropCombinator (Text.collapseBlanks (dropContainers classes none selector))

/-- The last compound of a selector: what follows its last blank or combinator. -/
def lastCompound (selector : Text) : Text :=
  ((Text.trim selector).reverse.takeWhile fun c => !isBlank c && !isCombinator c).reverse

/-- Whether a character names what an element must be or have. -/
def isNarrowing (c : Char) : Bool := c == '.' || c == '#' || c == '['

/-- Whether a compound is nothing but a star and pseudo-classes, each of which may be missing. -/
def isUniversalCompound (compound : Text) : Bool :=
  let rest := if compound.head? = some '*' then compound.tail else compound
  match rest with
  | [] => true
  | ':' :: rest => rest.all fun c => !isNarrowing c
  | _ => false

/-- Whether the last compound of a selector may match any element. -/
def isUniversal (selector : Text) : Bool := isUniversalCompound (lastCompound selector)

/-- The selectors of the elements that get the content of a rule: the owners, cleaned, without
those that are empty or universal. -/
def targets (classes : List Text) (owners : List Text) : List Text :=
  (owners.map (clean classes)).filter fun s => !s.isEmpty && !isUniversal s

/-- Whether a character separates the compounds of a selector list. -/
def isSeparator (c : Char) : Bool := isBlank c || isCombinator c || c == ','

/-- The tag name that the last compound of a selector begins with. -/
def lastTag? (selector : Text) : Option Text :=
  match ((Text.splitWhere isSeparator selector).filter (!·.isEmpty)).getLast? with
  | none => none
  | some compound =>
    if compound.head?.any Char.isAlpha then
      some (Text.lowerAscii (compound.takeWhile Char.isAlphanum))
    else none

end GeneratedContent.Owner
