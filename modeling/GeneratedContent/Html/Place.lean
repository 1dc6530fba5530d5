import GeneratedContent.Html.Page

/-!
# Places in a page

A place is an element together with everything around it: its parent's place and the nodes before
and after it. The page itself is the place that all others lie in. From a place one can go to its
ancestors, its siblings and what lies inside it.
-/

namespace GeneratedContent.Html

/-- An element where it stands, or the page around all elements. -/
inductive Place where
  /-- The page itself. -/
  | page (nodes : List Node)
  /-- An element of a parent, between the nodes before it, the nearest first, and those after it. -/
  | inside (parent : Place) (before : List Node) (id : Nat) (name : Text) (attributes : Attributes)
      (children : List Node) (after : List Node)

namespace Place

/-- The number of the element; zero for the page. -/
def id : Place → Nat
  | .page _ => 0
  | .inside _ _ id _ _ _ _ => id

/-- The name of the element. The page has a name that no element has. -/
def name : Place → Text
  | .page _ => "[document]".toList
  | .inside _ _ _ name _ _ _ => name

/-- The attributes of the element. -/
def attributes : Place → Attributes
  | .page _ => .empty
  | .inside _ _ _ _ attributes _ _ => attributes

/-- The nodes inside. -/
def contents : Place → List Node
  | .page nodes => nodes
  | .inside _ _ _ _ _ children _ => children

/-- The place of the parent. -/
def parent? : Place → Option Place
  | .page _ => none
  | .inside parent _ _ _ _ _ _ => some parent

/-- The places around, the nearest first. -/
def ancestors : Place → List Place
  | .page _ => []
  | .inside parent _ _ _ _ _ _ => parent :: ancestors parent

/-- The places of the elements among nodes of a parent that follow other nodes. -/
def ofNodes (parent : Place) : (before : List Node) → List Node → List Place
  | _, [] => []
  | before, .element id name attributes children :: after =>
    .inside parent before id name attributes children after ::
      ofNodes parent (.element id name attributes children :: before) after
  | before, n :: after => ofNodes parent (n :: before) after

/-- The places of the elements among nodes of a parent, the last one first, that precede other
nodes. -/
def ofNodesBefore (parent : Place) : (before : List Node) → (after : List Node) → List Place
  | [], _ => []
  | .element id name attributes children :: before, after =>
    .inside parent before id name attributes children after ::
      ofNodesBefore parent before (.element id name attributes children :: after)
  | n :: before, after => ofNodesBefore parent before (n :: after)

/-- The places of the children that are elements. -/
def children (p : Place) : List Place := ofNodes p [] p.contents

/-- The places of the siblings before, the nearest first. -/
def earlier : Place → List Place
  | .page _ => []
  | .inside parent before id name attributes children after =>
    ofNodesBefore parent before (.element id name attributes children :: after)

/-- The places of the siblings after, the nearest first. -/
def later : Place → List Place
  | .page _ => []
  | .inside parent before id name attributes children after =>
    ofNodes parent (.element id name attributes children :: before) after

mutual

/-- The places of all elements in a node of a parent, between other nodes, in document order. -/
def allOfNode (parent : Place) (before after : List Node) : Node → List Place
  | .element id name attributes children =>
    let p := Place.inside parent before id name attributes children after
    p :: allOfNodes p [] children
  | .text _ => []
  | .aside _ _ => []

/-- The places of all elements in nodes of a parent that follow other nodes, in document order. -/
def allOfNodes (parent : Place) (before : List Node) : List Node → List Place
  | [] => []
  | n :: after => allOfNode parent before after n ++ allOfNodes parent (n :: before) after

end

/-- The places of all elements inside, in document order. -/
def descendants (p : Place) : List Place := allOfNodes p [] p.contents

end Place

/-- The place of the page itself. -/
def Page.place (p : Page) : Place := .page p.nodes

end GeneratedContent.Html
