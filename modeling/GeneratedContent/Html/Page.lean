import GeneratedContent.Html.Event

/-!
# Pages

A page is read by nesting its events. A start tag opens an element, and an end tag closes the
innermost open element of its name together with all that are open inside it; what is still open at
the end of the page closes there. Nothing is implied: no start tag closes an element. The elements
of a page are numbered from one in the order of their start tags. Of a page whose markup is rejected
only what stands before that is read; whether it is rejected has to be asked before (`rejection?`).
-/

namespace GeneratedContent.Html

/-- A page, as the list of its nodes. -/
structure Page where
  /-- The nodes outside every element, in order. -/
  nodes : List Node := []
  /-- A number that no element has yet, and so none of the numbers above it. -/
  nextId : Nat := 1

/-! ## Attribute values -/

/-- The attributes that hold a list of words, by the element that has them. -/
def wordLists : List (String × List String) := [
  ("a", ["rel", "rev"]), ("link", ["rel", "rev"]), ("td", ["headers"]), ("th", ["headers"]),
  ("form", ["accept-charset"]), ("object", ["archive"]), ("area", ["rel"]), ("icon", ["sizes"]),
  ("iframe", ["sandbox"]), ("output", ["for"])]

/-- Whether an attribute of an element holds a list of words. -/
def isWordList (element name : Text) : Bool :=
  ["class", "accesskey", "dropzone"].any (·.toList = name) ||
    wordLists.any fun e => e.1.toList = element && e.2.any (·.toList = name)

/-- The attributes of an element: a list of words is kept with one space between the words. -/
def attributesOf (element : Text) (written : List (Text × Text)) : Attributes :=
  .ofList (written.map fun e =>
    (e.1, if isWordList element e.1 then Text.collapseBlanks e.2 else e.2))

/-! ## Nesting -/

/-- An element whose end has not been read. -/
structure OpenElement where
  /-- The number of the element. -/
  id : Nat
  /-- The name of the element. -/
  name : Text
  /-- The attributes of the element. -/
  attributes : Attributes
  /-- The children read so far, the last one first. -/
  children : List Node := []

/-- The element, with the children read so far. -/
def OpenElement.node (e : OpenElement) : Node :=
  .element e.id e.name e.attributes e.children.reverse

/-- What has been read of a page. -/
structure Nesting where
  /-- The elements that are open, the innermost first. -/
  opened : List OpenElement := []
  /-- The nodes outside every element, the last one first. -/
  top : List Node := []
  /-- The text since the last tag that counted. -/
  run : Text := []
  /-- The names of void elements read without a slash. Each allows for one end tag. -/
  voids : List Text := []
  /-- The number of the next element. -/
  nextId : Nat := 1

namespace Nesting

/-- Puts a node at the end of the innermost open element. -/
def add (b : Nesting) (n : Node) : Nesting :=
  match b.opened with
  | [] => { b with top := n :: b.top }
  | e :: es => { b with opened := { e with children := n :: e.children } :: es }

/-- What is kept of a text: one of nothing but white space shrinks to a line break if it holds one,
and to a space otherwise, unless an open element keeps its blanks. -/
def kept (b : Nesting) (s : Text) : Text :=
  if s.all isSpace && !b.opened.any (keepsBlanks ·.name) then
    if s.contains '\n' then ['\n'] else [' ']
  else s

/-- Ends the text that is being read. -/
def endRun (b : Nesting) : Nesting :=
  if b.run = [] then b else { b with run := [] }.add (.text (b.kept b.run))

/-- Opens an element. -/
def enter (b : Nesting) (name : Text) (attributes : List (Text × Text)) : Nesting :=
  { b with
    opened := { id := b.nextId, name, attributes := attributesOf name attributes } :: b.opened
    nextId := b.nextId + 1 }

/-- Closes the innermost elements, as many as given. -/
def leave : (count : Nat) → Nesting → Nesting
  | 0, b => b
  | count + 1, b =>
    match b.opened with
    | [] => b
    | e :: es => leave count ({ b with opened := es }.add e.node)

/-- Takes in one more event. The end tag of a void element that was read without a slash is passed
over, and does not even end the text around it. A surrogate is shown as the replacement character. -/
def step (b : Nesting) : Event → Nesting
  | .rejected _ => b
  | .text content => { b with run := b.run ++ content }
  | .surrogate _ => { b with run := b.run ++ ['\uFFFD'] }
  | .aside kind content => b.endRun.add (.aside kind (b.kept content))
  | .startTag name attributes closed =>
    let b := b.endRun.enter name attributes
    if closed then b.leave 1
    else if isVoid name then { b.leave 1 with voids := name :: b.voids }
    else b
  | .endTag name =>
    if b.voids.contains name then { b with voids := b.voids.erase name }
    else
      let b := b.endRun
      match b.opened.findIdx? (·.name = name) with
      | some i => b.leave (i + 1)
      | none => b

/-- The page, with everything that is open closed. -/
def finish (b : Nesting) : Page :=
  let b := b.endRun
  let b := b.leave b.opened.length
  ⟨b.top.reverse, b.nextId⟩

end Nesting

namespace Page

/-- The page that events make up. -/
def ofEvents (events : List Event) : Page := (events.foldl Nesting.step {}).finish

/-- The page that a text describes. -/
def read (source : Text) : Page := ofEvents (Event.read source)

end Page

end GeneratedContent.Html
