/-!
# Counting runs

The counter of a rule goes through the matched elements in document order. It remembers the parent
of the last one: it counts on while the parent stays the same, and starts over at one when the
parent changes. An element without a parent always starts over.
-/

namespace GeneratedContent.Counter

/-- Where a count stands. -/
structure State (κ : Type) where
  /-- The parent of the last element; none before the first element and where there is none. -/
  lastParent : Option κ := none
  /-- The value of the last element. -/
  value : Nat := 0
deriving DecidableEq, Repr

variable {κ : Type} [DecidableEq κ]

/-- Counts one more element. -/
def State.advance (s : State κ) (parent : Option κ) : State κ :=
  if parent ≠ none ∧ parent = s.lastParent then ⟨parent, s.value + 1⟩ else ⟨parent, 1⟩

/-- The states after each of the elements, counting on from a state. -/
def statesFrom (s : State κ) : List (Option κ) → List (State κ)
  | [] => []
  | parent :: parents => s.advance parent :: statesFrom (s.advance parent) parents

/-- The states after each of the elements. -/
def states (parents : List (Option κ)) : List (State κ) := statesFrom {} parents

/-- The value of each element, by the parents of the elements in document order. -/
def values (parents : List (Option κ)) : List Nat := (states parents).map State.value

end GeneratedContent.Counter
