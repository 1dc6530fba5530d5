import GeneratedContent.Html.Place

/-!
# Editing a page

An element is changed in place by its number: its attributes and its children are replaced, and
everything else stays.
-/

namespace GeneratedContent.Html

mutual

/-- Changes the element with a number in a node. -/
def Node.update (id : Nat) (change : Attributes → List Node → Attributes × List Node) : Node → Node
  | .element i name attributes children =>
    let children := Node.updateAll id change children
    let new := if i = id then change attributes children else (attributes, children)
    .element i name new.1 new.2
  | .text content => .text content
  | .aside kind content => .aside kind content

/-- Changes the element with a number among nodes and inside them. -/
def Node.updateAll (id : Nat) (change : Attributes → List Node → Attributes × List Node) :
    List Node → List Node
  | [] => []
  | n :: ns => Node.update id change n :: Node.updateAll id change ns

end

namespace Page

/-- Changes the element with a number. -/
def update (p : Page) (id : Nat) (change : Attributes → List Node → Attributes × List Node) :
    Page :=
  { p with nodes := Node.updateAll id change p.nodes }

/-- Adds a node that is made with a new number to the element with a number, as the first child or as
the last. -/
def insert (p : Page) (id : Nat) (first : Bool) (make : Nat → Node) : Page :=
  let n := make p.nextId
  let q := p.update id fun attributes children =>
    (attributes, if first then n :: children else children ++ [n])
  { q with nextId := p.nextId + 1 }

/-- The place of the element with a number. -/
def find? (p : Page) (id : Nat) : Option Place := p.place.descendants.find? (·.id = id)

/-- The elements with a name, in document order. -/
def named (p : Page) (name : Text) : List Place := p.place.descendants.filter (·.name = name)

end Page

end GeneratedContent.Html
