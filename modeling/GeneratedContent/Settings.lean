import GeneratedContent.Text.Quoted

/-!
# Settings

What can be set for a conversion: the classes of the container that the stylesheet was written for,
what stands in for generated content, and the kind of document tree to work with, of which there is
one.
-/

namespace GeneratedContent

/-- The settings of a conversion. -/
structure Settings where
  /-- The classes of containers, which are taken out of selectors. -/
  containerClasses : List Text := ["preview-content".toList]
  /-- The name of the kind of document tree. -/
  tree : Text := "soup".toList
  /-- The name of the elements that stand in for generated content. -/
  markerName : Text := "span".toList
  /-- What the class of such an element begins with. -/
  markerClassPrefix : Text := "pseudo-".toList
deriving DecidableEq

/-- A kind of document tree that there is none of. -/
structure UnknownTree where
  /-- The name that was asked for. -/
  name : Text
deriving DecidableEq

namespace UnknownTree

/-- Where the kinds of document trees are looked for. -/
def folder : Text := "pseudoshim.trees.".toList

/-- What is said about a name: its first part is looked for, and below the one kind that there is,
its second part. -/
def message (e : UnknownTree) : Text :=
  match Text.splitAt '.' e.name with
  | kind :: part :: _ =>
    if kind = "soup".toList then
      "No module named ".toList ++ Text.inQuotes (folder ++ kind ++ '.' :: part) ++ "; ".toList ++
        Text.inQuotes (folder ++ kind) ++ " is not a package".toList
    else "No module named ".toList ++ Text.inQuotes (folder ++ kind)
  | _ => "No module named ".toList ++ Text.inQuotes (folder ++ e.name)

end UnknownTree

/-- Why the kind of document tree of some settings cannot be had, if it cannot; without a name it is
the one that there is. -/
def Settings.unknownTree? (s : Settings) : Option UnknownTree :=
  if s.tree = [] ∨ s.tree = "soup".toList then none else some ⟨s.tree⟩

end GeneratedContent
