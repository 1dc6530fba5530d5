import GeneratedContent.Text.Basic

/-!
# Paths

A path is read as the names between its slashes. Empty names and single dots say nothing and are
left out; two dots lead to the folder above, and stay, since what they mean depends on the folders
that there are. A path can be written with a null character, but the system cannot be asked for it.
-/

namespace GeneratedContent

/-- A path to a file or a folder. -/
structure FilePath where
  /-- The slashes that the path begins with: one or two where it begins at the root, none where it
  begins at the current folder. -/
  root : Text := []
  /-- The names in the path. -/
  parts : List Text := []
deriving DecidableEq

namespace FilePath

/-- The slashes that count at the front of a path: two are kept, and more are as good as one. -/
def rootOf (s : Text) : Text :=
  match (s.takeWhile (· == '/')).length with
  | 0 => []
  | 2 => ['/', '/']
  | _ => ['/']

/-- The path that a text writes. -/
def ofText (s : Text) : FilePath :=
  ⟨rootOf s, (Text.splitAt '/' s).filter fun part => part != [] && part != ['.']⟩

/-- A path as text. The path that says nothing is written as a dot. -/
def text (p : FilePath) : Text :=
  let written := p.root ++ List.intercalate ['/'] p.parts
  if written = [] then ['.'] else written

/-- The path to the folder of a file or a folder. -/
def parent (p : FilePath) : FilePath := ⟨p.root, p.parts.dropLast⟩

/-- Whether a path holds the null character, at which a path ends for the system. -/
def holdsNull (p : FilePath) : Bool := p.parts.any (·.contains '\x00')

end FilePath

end GeneratedContent
