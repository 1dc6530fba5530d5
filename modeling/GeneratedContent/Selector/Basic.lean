import GeneratedContent.Text.Caseless
import GeneratedContent.Text.Letter

/-!
# Selectors

A selector is a list of complex selectors, of which an element has to match one. A complex selector
is a chain of compounds that are joined by combinators, and a compound is a list of simple
selectors, all of which hold of the same element.
-/

namespace GeneratedContent

/-- How two elements of a chain stand to each other. -/
inductive Combinator where
  /-- The second lies inside the first. -/
  | descendant
  /-- The second is a child of the first. -/
  | child
  /-- The second is the next sibling of the first. -/
  | next
  /-- The second is a sibling after the first. -/
  | later
deriving DecidableEq, Repr

/-- How the value of an attribute is compared. -/
inductive Comparison where
  /-- It is the text. -/
  | equals
  /-- One of its words is the text. -/
  | hasWord
  /-- It is the text, or begins with it and a hyphen. -/
  | inFamily
  /-- It begins with the text. -/
  | startsWith
  /-- It ends with the text. -/
  | endsWith
  /-- The text is part of it. -/
  | contains
deriving DecidableEq, Repr

/-- A test on the value of an attribute. -/
structure ValueTest where
  /-- How the value is compared. -/
  comparison : Comparison
  /-- The text it is compared with. -/
  text : Text
  /-- Whether letters of any case are the same. -/
  caseless : Bool
deriving DecidableEq, Repr

/-- Positions given by a formula: those that are the offset and some steps, or none. -/
structure Positions where
  /-- The step from one position to the next. -/
  step : Int
  /-- The position after no step. -/
  offset : Int
deriving DecidableEq, Repr

/-- Whether a position is one of those given. -/
def Positions.includes (p : Positions) (position : Nat) : Bool :=
  let distance := (position : Int) - p.offset
  if p.step = 0 then distance == 0 else distance % p.step == 0 && 0 ≤ distance / p.step

mutual

/-- A condition on one element. -/
inductive Simple where
  /-- It has the name, or any name if that is a star. A namespace other than a star is none of the
  element's. -/
  | named (space : Option Text) (name : Text)
  /-- It has the id. -/
  | identified (id : Text)
  /-- It has the class. -/
  | classed (name : Text)
  /-- It has the attribute, with a value that passes the test if there is one. -/
  | attributed (name : Text) (test : Option ValueTest)
  /-- Nothing is so. -/
  | never
  /-- It is the one element outside all others. -/
  | root
  /-- It has no element in it, and no text but white space. -/
  | empty
  /-- It has one of the positions among its siblings, or among those of its own name, counted from
  the first or from the last. -/
  | positioned (positions : Positions) (ofType fromEnd : Bool)
  /-- It matches a selector and has one of the positions among its siblings that match it too. -/
  | positionedAmong (positions : Positions) (fromEnd : Bool) (selector : List Complex)
  /-- It matches one of the selectors. -/
  | anyOf (selector : List Complex)
  /-- It matches none of the selectors. -/
  | noneOf (selector : List Complex)
  /-- One of the chains leads on from it. -/
  | followedBy (chains : List Chain)

/-- A chain of compounds that ends at the element in question. -/
inductive Complex where
  /-- One compound. -/
  | compound (parts : List Simple)
  /-- A chain, and a compound for an element that stands so to the end of the chain. -/
  | joined (left : Complex) (combinator : Combinator) (parts : List Simple)

/-- A chain of compounds that begins at the element in question. -/
inductive Chain where
  /-- One compound, for an element that stands so to the beginning. -/
  | last (combinator : Combinator) (parts : List Simple)
  /-- A compound, and how the chain goes on from there. -/
  | step (combinator : Combinator) (parts : List Simple) (rest : Chain)

end

/-- A list of complex selectors. -/
abbrev Selector := List Complex

end GeneratedContent
