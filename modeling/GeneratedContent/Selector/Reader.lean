import GeneratedContent.Selector.Token

/-!
# Reading selectors

The tokens of a selector are nested by their brackets first. What stands between two brackets is
then read from left to right as a list of chains of compounds. Every slot of a list holds a selector,
combinators stand between compounds, and the name of an element comes first in its compound.
-/

namespace GeneratedContent.Selector

/-- A part of a selector, with everything between the brackets of a functional pseudo-class. -/
inductive Part where
  /-- A simple selector. -/
  | simple (s : Simple)
  /-- A combinator. -/
  | combinator (c : Combinator)
  /-- A comma. -/
  | comma
  /-- A functional pseudo-class. -/
  | call (f : Call) (inside : List Part)

namespace Part

/-- The parts read so far: those of the innermost open bracket, the last one first, and the calls
around it with the parts before them. -/
structure Nesting where
  /-- The parts in the innermost open bracket. -/
  inner : List Part := []
  /-- The open calls, the innermost first, with the parts before each. -/
  outer : List (Call × List Part) := []

/-- Takes in one more token. A bracket is only closed after it was opened. -/
def Nesting.step (n : Nesting) : Token → Option Nesting
  | .simple s => some { n with inner := .simple s :: n.inner }
  | .combinator c => some { n with inner := .combinator c :: n.inner }
  | .comma => some { n with inner := .comma :: n.inner }
  | .opening f => some ⟨[], (f, n.inner) :: n.outer⟩
  | .closing =>
    match n.outer with
    | [] => none
    | (f, before) :: outer => some ⟨.call f n.inner.reverse :: before, outer⟩

/-- The parts that tokens make up, if every bracket is closed. -/
def ofTokens? (tokens : List Token) : Option (List Part) :=
  match tokens.foldlM Nesting.step {} with
  | some ⟨inner, []⟩ => some inner.reverse
  | _ => none

end Part

/-- A compound with one more part behind the others, both given last part first. The name of an
element comes first in its compound. -/
def withPart? (current : List Simple) (s : Simple) : Option (List Simple) :=
  match s, current with
  | .named _ _, _ :: _ => none
  | s, current => some (s :: current)

/-! ## Lists of selectors -/

/-- What has been read of a list of complex selectors. -/
structure ListState where
  /-- The complete selectors, the last one first. -/
  done : List Complex := []
  /-- The chain before the compound that is being read, and how it is joined to it. -/
  pending : Option (Complex × Combinator) := none
  /-- The compound that is being read, the last part first. -/
  current : List Simple := []

namespace ListState

/-- The chain up to the compound that is being read. -/
def complex (st : ListState) : Complex :=
  match st.pending with
  | none => .compound st.current.reverse
  | some (left, c) => .joined left c st.current.reverse

/-- The selector of an empty slot. -/
def nothing : Complex := .compound [.never]

/-- Adds to the compound. -/
def push (st : ListState) (s : Simple) : Option ListState :=
  (withPart? st.current s).map fun current => { st with current }

/-- Ends the compound with a combinator. -/
def join (st : ListState) (c : Combinator) : Option ListState :=
  if st.current.isEmpty then none
  else some { done := st.done, pending := some (st.complex, c), current := [] }

/-- Ends the slot with a comma. -/
def next (forgiving : Bool) (st : ListState) : Option ListState :=
  if !st.current.isEmpty then some { done := st.complex :: st.done }
  else if forgiving then some { done := nothing :: st.done }
  else none

/-- Ends the list. A list that forgives empty slots still wants a selector behind a combinator, but
not in its first slot. -/
def finish (forgiving : Bool) (st : ListState) : Option (List Complex) :=
  if !st.current.isEmpty then some (st.complex :: st.done).reverse
  else if forgiving && (st.done.isEmpty || st.pending.isNone) then some (nothing :: st.done).reverse
  else none

end ListState

/-! ## Lists of chains -/

/-- What has been read of a list of chains that begin at an element. -/
structure ChainState where
  /-- The complete chains, the last one first. -/
  done : List Chain := []
  /-- The compounds of the chain before the one that is being read, the last one first, and how each
  stands to the one before it. -/
  before : List (Combinator × List Simple) := []
  /-- How the compound that is being read stands to the one before it. -/
  lead : Combinator := .descendant
  /-- The compound that is being read, the last part first. -/
  current : List Simple := []

namespace ChainState

/-- The chain up to the compound that is being read. -/
def chain (st : ChainState) : Chain :=
  st.before.foldl (fun rest link => .step link.1 link.2 rest) (.last st.lead st.current.reverse)

/-- Adds to the compound. -/
def push (st : ChainState) (s : Simple) : Option ChainState :=
  (withPart? st.current s).map fun current => { st with current }

/-- Takes in a combinator, which ends a compound or begins the chain. White space before another
combinator does not count. -/
def join (st : ChainState) (c : Combinator) : Option ChainState :=
  if !st.current.isEmpty then
    some { st with before := (st.lead, st.current.reverse) :: st.before, lead := c, current := [] }
  else if st.lead = .descendant then some { st with lead := c }
  else none

/-- Ends the slot with a comma. -/
def next (st : ChainState) : Option ChainState :=
  if st.current.isEmpty then none else some { done := st.chain :: st.done }

/-- Ends the list. -/
def finish (st : ChainState) : Option (List Chain) :=
  if st.current.isEmpty then none else some (st.chain :: st.done).reverse

end ChainState

/-! ## Parts -/

/-- Takes in one more part, of which the condition that it states is given. -/
def ListState.take (forgiving : Bool) (st : ListState) (condition : Option Simple) :
    Part → Option ListState
  | .combinator c => st.join c
  | .comma => st.next forgiving
  | _ => condition.bind st.push

/-- Takes in one more part, of which the condition that it states is given. -/
def ChainState.take (st : ChainState) (condition : Option Simple) : Part → Option ChainState
  | .combinator c => st.join c
  | .comma => st.next
  | _ => condition.bind st.push

mutual

/-- The condition that a part states. -/
def Part.condition? : Part → Option Simple
  | .simple s => some s
  | .combinator _ => none
  | .comma => none
  | .call (.anyOf forgiving) inside => (readList? forgiving {} inside).map .anyOf
  | .call .noneOf inside => (readList? false {} inside).map .noneOf
  | .call .followedBy inside => (readChains? {} inside).map .followedBy
  | .call (.among positions fromEnd) inside =>
    (readList? false {} inside).map (.positionedAmong positions fromEnd)
  | .call .never inside => (readList? false {} inside).map fun _ => .never

/-- The complex selectors that parts state, after what has been read before them. -/
def readList? (forgiving : Bool) (st : ListState) : List Part → Option (List Complex)
  | [] => st.finish forgiving
  | p :: parts => (st.take forgiving p.condition? p).bind fun st => readList? forgiving st parts

/-- The chains that parts state, after what has been read before them. -/
def readChains? (st : ChainState) : List Part → Option (List Chain)
  | [] => st.finish
  | p :: parts => (st.take p.condition? p).bind fun st => readChains? st parts

end

/-- The selector that a text states, if it states one. -/
def read? (text : Text) : Option Selector :=
  ((Token.read? text).bind Part.ofTokens?).bind (readList? false {})

end GeneratedContent.Selector
