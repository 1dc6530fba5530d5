import GeneratedContent.Html.Place
import GeneratedContent.Selector.Reader

/-!
# Matching selectors

When an element matches a selector depends on its name and attributes, on what is inside it and on
where it stands. The page stands around the elements at the top like a parent: it has no attributes
and no name, but it matches a star.
-/

namespace GeneratedContent

open Html

/-! ## Tests on values -/

namespace ValueTest

/-- What follows a text at the front of a value. -/
def after? (t : ValueTest) (value : Text) : Option Text :=
  if t.caseless then Text.afterCaseless? t.text value else Text.after? t.text value

/-- Whether a value ends here, but for one line break. -/
def isEnd (value : Text) : Bool := value == [] || value == ['\n']

/-- Whether a value passes the test. Nothing contains, begins or ends with the empty text here, and
a word holds no white space. -/
def passes (t : ValueTest) (value : Text) : Bool :=
  let isWord (rest : Text) := isEnd rest || rest.head?.any isSpace
  match t.comparison with
  | .equals => (t.after? value).any isEnd
  | .inFamily => (t.after? value).any fun rest => isEnd rest || rest.head? == some '-'
  | .startsWith => t.text != [] && (t.after? value).isSome
  | .endsWith => t.text != [] && Text.anySuffix value fun s => (t.after? s).any isEnd
  | .contains => t.text != [] && Text.anySuffix value fun s => (t.after? s).isSome
  | .hasWord =>
    t.text != [] && !t.text.any isSpace &&
      ((t.after? value).any isWord ||
        Text.anySuffix value fun s => s.head?.any isSpace && (t.after? s.tail).any isWord)

end ValueTest

/-! ## Relations between places -/

namespace Html.Place

/-- The places that an element may be joined to by a combinator before it. -/
def reachedBack (p : Place) : Combinator → List Place
  | .descendant => p.ancestors
  | .child => p.parent?.toList
  | .next => p.earlier.take 1
  | .later => p.earlier

/-- The places that a combinator leads to from an element. -/
def reached (p : Place) : Combinator → List Place
  | .descendant => p.descendants
  | .child => p.children
  | .next => p.later.take 1
  | .later => p.later

/-- The name in lower case, where only ASCII letters have case. -/
def loweredName (p : Place) : Text := Text.lowerAscii p.name

/-- The siblings that a position counts before an element. -/
def counted (p : Place) (fromEnd : Bool) : List Place := if fromEnd then p.later else p.earlier

/-- The value of an attribute, whose name is given in letters of any case. -/
def valueOf? (p : Place) (name : Text) : Option Text :=
  (p.attributes.entries.find? fun e =>
    Text.lowerAscii e.1 = Text.lowerAscii name).map Prod.snd

/-- The classes of an element. -/
def classes (p : Place) : List Text :=
  match p.valueOf? "class".toList with
  | some value => (Text.splitWhere isSpace value).filter (!·.isEmpty)
  | none => []

/-- Whether a node counts as content: an element, or text with more than white space. -/
def isContent : Node → Bool
  | .element _ _ _ _ => true
  | .text content => !content.all isSpace
  | .aside _ _ => false

/-- Whether a node keeps an element from being the root beside it: an element, text that is not
blank, or character data. -/
def deniesRoot : Node → Bool
  | .element _ _ _ _ => true
  | .text content => !content.all isBlank
  | .aside kind _ => kind = .characterData

/-- Whether the element is the root: the only one outside all elements, with no text beside it. -/
def isRoot : Place → Bool
  | .inside (.page _) before _ _ _ _ after => !before.any deniesRoot && !after.any deniesRoot
  | _ => false

end Html.Place

/-! ## Matching -/

mutual

/-- Whether a condition holds of an element. -/
def Simple.holds : Simple → Place → Bool
  | .named space name, p =>
    (space.all (· = ['*'])) &&
      (Text.lowerAscii name = ['*'] || Text.lowerAscii name = p.loweredName)
  | .identified id, p => p.valueOf? "id".toList = some id
  | .classed name, p => p.classes.contains name
  | .attributed name test, p =>
    match p.valueOf? name with
    | none => false
    | some value => test.all (·.passes value)
  | .never, _ => false
  | .root, p => p.isRoot
  | .empty, p => !p.contents.any Place.isContent
  | .positioned positions ofType fromEnd, p =>
    let counted := (p.counted fromEnd).filter fun q => !ofType || q.loweredName = p.loweredName
    positions.includes (counted.length + 1)
  | .positionedAmong positions fromEnd selector, p =>
    Complex.anyHolds selector p &&
      positions.includes
        (((p.counted fromEnd).filter fun q => Complex.anyHolds selector q).length + 1)
  | .anyOf selector, p => Complex.anyHolds selector p
  | .noneOf selector, p => !Complex.anyHolds selector p
  | .followedBy chains, p => Chain.anyHolds chains p

/-- Whether all conditions hold of an element. -/
def Simple.allHold : List Simple → Place → Bool
  | [], _ => true
  | s :: ss, p => s.holds p && Simple.allHold ss p

/-- Whether an element ends a chain. -/
def Complex.holds : Complex → Place → Bool
  | .compound parts, p => Simple.allHold parts p
  | .joined left c parts, p =>
    Simple.allHold parts p && (p.reachedBack c).any fun q => left.holds q

/-- Whether an element ends one of several chains. -/
def Complex.anyHolds : List Complex → Place → Bool
  | [], _ => false
  | c :: cs, p => c.holds p || Complex.anyHolds cs p

/-- Whether a chain begins at an element. -/
def Chain.holds : Chain → Place → Bool
  | .last c parts, p => (p.reached c).any fun q => Simple.allHold parts q
  | .step c parts rest, p => (p.reached c).any fun q => Simple.allHold parts q && rest.holds q

/-- Whether one of several chains begins at an element. -/
def Chain.anyHolds : List Chain → Place → Bool
  | [], _ => false
  | c :: cs, p => c.holds p || Chain.anyHolds cs p

end

/-- The elements of a page that match a selector, in document order. -/
def Html.Page.matching (p : Page) (s : Selector) : List Place :=
  p.place.descendants.filter fun q => Complex.anyHolds s q

end GeneratedContent
