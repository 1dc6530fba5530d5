import GeneratedContent.Css.Comment
import GeneratedContent.Css.Split
import GeneratedContent.Text.Blank
import GeneratedContent.Text.Caseless
import GeneratedContent.Text.Quoted

/-!
# Pseudo-elements in preludes

Generated content stands before or after the content of an element. A selector asks for it by ending
in the name of the pseudo-element, after one colon or two. A prelude that ends so is a list of
selectors of which each may ask for one or the other, and those that ask for the same are grouped.
-/

namespace GeneratedContent

/-- Where generated content stands: before or after the content of its element. -/
inductive Placement where
  | before
  | after
deriving DecidableEq, Repr, Inhabited

namespace Placement

/-- The name of the pseudo-element. -/
def name : Placement → Text
  | .before => "before".toList
  | .after => "after".toList

/-- The placement of a name. -/
def ofName? (s : Text) : Option Placement :=
  if s = before.name then some .before
  else if s = after.name then some .after
  else none

/-- A name that no placement has. -/
structure UnknownName where
  /-- The name. -/
  name : Text
deriving DecidableEq

/-- What is said about such a name. -/
def UnknownName.message (e : UnknownName) : Text :=
  Text.inQuotes e.name ++ " is not a valid PseudoKind".toList

/-- The placement of a name that has to be one. -/
def read (s : Text) : Except UnknownName Placement :=
  match ofName? s with
  | some p => .ok p
  | none => .error ⟨s⟩

theorem ofName?_name (p : Placement) : ofName? p.name = some p := by
  cases p <;> decide

end Placement

/-- The owners of the pseudo-elements of one placement in a prelude. -/
structure OwnerGroup where
  /-- Where the content goes. -/
  placement : Placement
  /-- The selectors, without their pseudo-elements. -/
  owners : List Text
deriving DecidableEq, Repr

namespace OwnerGroup

/-- What stands before one or two colons in a text that is given last character first. -/
def dropColons? : Text → Option Text
  | ':' :: ':' :: s => some s
  | ':' :: s => some s
  | _ => none

/-- The owner and the placement of a selector that ends in a pseudo-element; letter case and blanks
behind the name do not matter. -/
def cutPseudo? (selector : Text) : Option (Text × Placement) :=
  let reversed := Text.trimLeft selector.reverse
  [Placement.before, Placement.after].findSome? fun p =>
    match Text.afterCaseless? p.name.reverse reversed with
    | some rest => (dropColons? rest).map fun owner => (Text.trim owner.reverse, p)
    | none => none

/-- Groups owners by placement, in the order in which the placements first come. -/
def group (owners : List (Text × Placement)) : List OwnerGroup :=
  (owners.map Prod.snd).eraseDups.map fun p =>
    ⟨p, (owners.filter (·.2 = p)).map Prod.fst⟩

/-- The owner groups of a prelude. A prelude that does not end in a pseudo-element has none, and
in a list the selectors without a pseudo-element are left out. -/
def ofPrelude (prelude : Text) : List OwnerGroup :=
  let prelude := Text.trim (Css.withoutComments prelude)
  if (cutPseudo? prelude).isNone then []
  else group ((Css.splitTopLevel ',' prelude).filterMap cutPseudo?)

end OwnerGroup

end GeneratedContent
