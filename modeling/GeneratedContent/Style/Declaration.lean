import GeneratedContent.Css.Comment
import GeneratedContent.Css.Split
import GeneratedContent.Style.Basic
import GeneratedContent.Text.Caseless

/-!
# Declarations

A declaration list is read by cutting it at the semicolons at its top level, and each piece at its
first colon. Comments are left out before. What has no property name is no declaration, and the
importance of a declaration is not part of its value.
-/

namespace GeneratedContent

/-- A property and what is written after its colon. -/
structure Declaration where
  /-- The name of the property, in lower case. -/
  property : Text
  /-- The value as written, comments left out. -/
  value : Text
deriving DecidableEq, Repr

namespace Declaration

/-- What follows a mark of importance in a text that begins with one: an exclamation mark, blanks
and the word, in letters of any case. -/
def afterImportance? : Text → Option Text
  | '!' :: s => Text.afterCaseless? "important".toList (Text.trimLeft s)
  | _ => none

theorem afterImportance?_length {s rest : Text} (h : afterImportance? s = some rest) :
    rest.length < s.length := by
  unfold afterImportance? at h
  split at h
  · rename_i s
    have h₁ := Text.afterCaseless?_length h
    have h₂ := Text.length_trimLeft_le s
    simp only [List.length_cons]
    omega
  · simp at h

/-- A value without its marks of importance. -/
def dropImportance (value : Text) : Text :=
  match value with
  | [] => []
  | c :: s =>
    match _h : afterImportance? (c :: s) with
    | some rest => dropImportance rest
    | none => c :: dropImportance s
termination_by value.length
decreasing_by
  · exact afterImportance?_length _h
  · simp

/-- The value that a property gets: without marks of importance and outer blanks. -/
def normalizeValue (value : Text) : Text := Text.trim (dropImportance value)

/-- The declaration that a piece of a declaration list states. -/
def ofPiece? (piece : Text) : Option Declaration :=
  match Text.cutAt? ':' piece with
  | none => none
  | some (name, value) =>
    let property := Text.lower (Text.trim name)
    if property = [] then none else some ⟨property, value⟩

/-- The declarations of a declaration list, in order. -/
def read (list : Text) : List Declaration :=
  (Css.splitTopLevel ';' (Css.withoutComments list)).filterMap ofPiece?

/-- Writes the declared value to the style, unless nothing is left of it. -/
def apply (style : Style) (d : Declaration) : Style :=
  let value := normalizeValue d.value
  if value = [] then style else style.insert d.property value

end Declaration

/-- The style that a declaration list describes; of a repeated property the last value counts. -/
def Style.read (list : Text) : Style := (Declaration.read list).foldl Declaration.apply .empty

end GeneratedContent
