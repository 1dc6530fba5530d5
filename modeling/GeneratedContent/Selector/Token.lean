import GeneratedContent.Selector.Basic
import GeneratedContent.Selector.Name

/-!
# Tokens of selectors

A selector is written as simple selectors, combinators, commas, and functional pseudo-classes with
selectors between their brackets. What is read here depends on names, attributes, positions and
emptiness. There are more pseudo-classes than that: for the states of forms, for languages and
directions, for text inside elements, for a scope. They are not read, and neither are pseudo-elements,
nor any other kind of text. Where it matters that somebody else may understand them, the way to select
elements is a parameter.
-/

namespace GeneratedContent.Selector

/-- A functional pseudo-class that takes selectors. -/
inductive Call where
  /-- An element that matches one of the selectors. In a forgiving list an empty slot is a selector
  that matches nothing. -/
  | anyOf (forgiving : Bool)
  /-- An element that matches none of the selectors. -/
  | noneOf
  /-- An element from which one of the selectors leads on. -/
  | followedBy
  /-- An element at a position among those that match one of the selectors. -/
  | among (positions : Positions) (fromEnd : Bool)
  /-- No element, whatever the selectors are. -/
  | never

/-- A token of a selector. -/
inductive Token where
  /-- A simple selector. -/
  | simple (s : Simple)
  /-- A combinator. -/
  | combinator (c : Combinator)
  /-- A comma. -/
  | comma
  /-- The beginning of a functional pseudo-class, up to its opening bracket. -/
  | opening (call : Call)
  /-- A closing bracket. -/
  | closing

namespace Token

/-! ## Names and attributes -/

/-- The name of an element or a star that a text begins with. -/
def cutElementName? : Text → Option (Text × Text)
  | '*' :: s => some (['*'], s)
  | s => cutName? s

/-- The namespace that a text begins with, which may be empty or a star, and what follows its bar. -/
def cutSpace? (s : Text) : Option (Text × Text) :=
  match s with
  | '|' :: rest => some ([], rest)
  | s =>
    match cutElementName? s with
    | some (space, '|' :: rest) => some (space, rest)
    | _ => none

/-- A name that a text begins with, behind a namespace or not. -/
def cutSpaced? (cut : Text → Option (Text × Text)) (s : Text) : Option (Option Text × Text × Text) :=
  match (cutSpace? s).bind fun (space, rest) => (cut rest).map (some space, ·) with
  | some r => some r
  | none => (cut s).map (none, ·)

/-- The comparison that a text begins with, whether its answer is turned around, and what follows
it. -/
def cutComparison? : Text → Option (Comparison × Bool × Text)
  | '=' :: s => some (.equals, false, s)
  | '!' :: '=' :: s => some (.equals, true, s)
  | '~' :: '=' :: s => some (.hasWord, false, s)
  | '|' :: '=' :: s => some (.inFamily, false, s)
  | '^' :: '=' :: s => some (.startsWith, false, s)
  | '$' :: '=' :: s => some (.endsWith, false, s)
  | '*' :: '=' :: s => some (.contains, false, s)
  | _ => none

/-- The value that an attribute is compared with: a string or a name. -/
def cutValue? (s : Text) : Option (Text × Text) :=
  match s with
  | [] => none
  | c :: rest =>
    if c = '"' ∨ c = '\'' then (cutQuoted? c rest).map fun r => (unescaped r.1, r.2) else cutName? s

/-- Whether letters of any case are the same in a comparison, and what follows the closing bracket of
the attribute. A letter before the bracket says so; without one only the values of the attribute
`type` are compared in that way. -/
def cutFlag? (name s : Text) : Option (Bool × Text) :=
  match dropFiller s with
  | ']' :: rest => some (Text.lowerAscii name = "type".toList, rest)
  | flag :: s =>
    if sameLetter 'i' flag || sameLetter 's' flag then
      match dropFiller s with
      | ']' :: rest => some (flag == 'i' || flag == 'I', rest)
      | _ => none
    else none
  | [] => none

/-- The condition on an attribute whose inside a text begins with, and what follows it. -/
def cutAttribute? (s : Text) : Option (Simple × Text) :=
  match cutSpaced? cutName? (dropFiller s) with
  | none => none
  | some (_, name, s) =>
    match dropFiller s with
    | ']' :: rest => some (.attributed name none, rest)
    | s =>
      match cutComparison? s with
      | none => none
      | some (comparison, turned, s) =>
        match cutValue? (dropFiller s) with
        | none => none
        | some (text, s) =>
          match cutFlag? name s with
          | none => none
          | some (caseless, rest) =>
            let test := Simple.attributed name (some ⟨comparison, text, caseless⟩)
            some (if turned then .noneOf [.compound [test]] else test, rest)

/-! ## Positions -/

/-- The sign that a text begins with, as a factor, and what follows it. -/
def cutSign : Text → Int × Text
  | '-' :: s => (-1, s)
  | '+' :: s => (1, s)
  | s => (1, s)

/-- The offset that a text begins with: a sign and digits, with filler around the sign. -/
def cutOffset? (s : Text) : Option (Int × Text) :=
  match dropFiller s with
  | [] => none
  | c :: s =>
    let s := dropFiller s
    if (c = '+' ∨ c = '-') ∧ s.takeWhile Char.isDigit ≠ [] then
      some ((if c = '-' then -1 else 1) * (Text.toNumber 10 (s.takeWhile Char.isDigit) : Int),
        s.dropWhile Char.isDigit)
    else none

/-- The formula that a text begins with: a position, or a step and an offset. -/
def cutFormula? (s : Text) : Option (Positions × Text) :=
  let (sign, s) := cutSign s
  let digits := s.takeWhile Char.isDigit
  let number : Int := Text.toNumber 10 digits
  match s.dropWhile Char.isDigit with
  | [] => if digits = [] then none else some (⟨0, sign * number⟩, [])
  | c :: rest =>
    if c = 'n' ∨ c = 'N' then
      let step := sign * (if digits = [] then 1 else number)
      match cutOffset? rest with
      | some (offset, rest) => some (⟨step, offset⟩, rest)
      | none => some (⟨step, 0⟩, rest)
    else if digits = [] then none
    else some (⟨0, sign * number⟩, c :: rest)

/-- The positions that a text begins with: a formula or a keyword. -/
def cutPositions? (s : Text) : Option (Positions × Text) :=
  match cutFormula? s with
  | some r => some r
  | none =>
    if Text.lowerAscii (s.take 4) = "even".toList then some (⟨2, 0⟩, s.drop 4)
    else if Text.lowerAscii (s.take 3) = "odd".toList then some (⟨2, 1⟩, s.drop 3)
    else none

/-- What follows the word between positions and selectors, with white space on both of its sides. -/
def afterOf? (s : Text) : Option Text :=
  match afterSpacedFiller? s with
  | some (o :: f :: s) => if Text.lowerAscii [o, f] = "of".toList then afterSpacedFiller? s else none
  | _ => none

/-- The pseudo-class for a position whose inside a text begins with. -/
def cutPositioned? (ofType fromEnd : Bool) (s : Text) : Option (Token × Text) :=
  match cutPositions? s with
  | none => none
  | some (positions, s) =>
    match dropFiller s with
    | ')' :: rest => some (.simple (.positioned positions ofType fromEnd), rest)
    | _ =>
      if ofType then none else (afterOf? s).map fun rest => (.opening (.among positions fromEnd), rest)

/-! ## Pseudo-classes -/

/-- The pseudo-classes for states that no element of a page is in. -/
def absentStates : List Text := [
  "active", "current", "focus", "focus-visible", "focus-within", "future", "host", "hover",
  "local-link", "past", "paused", "playing", "target", "target-within", "user-invalid",
  "visited"].map String.toList

/-- The first or the last position. -/
def atEnd (ofType fromEnd : Bool) : Simple := .positioned ⟨0, 1⟩ ofType fromEnd

/-- What a pseudo-class without brackets says. -/
def pseudoClass? (name : Text) : Option (List Simple) :=
  if absentStates.contains name then some [.never]
  else if name = "root".toList then some [.root]
  else if name = "empty".toList then some [.empty]
  else if name = "link".toList ∨ name = "any-link".toList then
    some [.anyOf [.compound [.named none "a".toList], .compound [.named none "area".toList]],
      .attributed "href".toList none]
  else if name = "first-child".toList then some [atEnd false false]
  else if name = "last-child".toList then some [atEnd false true]
  else if name = "only-child".toList then some [atEnd false false, atEnd false true]
  else if name = "first-of-type".toList then some [atEnd true false]
  else if name = "last-of-type".toList then some [atEnd true true]
  else if name = "only-of-type".toList then some [atEnd true false, atEnd true true]
  else none

/-- The functional pseudo-class of a name. -/
def call? (name : Text) : Option Call :=
  if name = "is".toList ∨ name = "where".toList then some (.anyOf true)
  else if name = "matches".toList then some (.anyOf false)
  else if name = "not".toList then some .noneOf
  else if name = "has".toList then some .followedBy
  else if ["current", "host", "host-context"].any (·.toList = name) then some .never
  else none

/-- What begins with a colon. -/
def readPseudo? (s : Text) : Option (List Token × Text) :=
  match cutName? s with
  | none => none
  | some (name, s) =>
    let name := Text.lowerAscii name
    match s with
    | '(' :: inner =>
      let inner := dropFiller inner
      let one := fun (r : Token × Text) => ([r.1], r.2)
      if name = "nth-child".toList then (cutPositioned? false false inner).map one
      else if name = "nth-last-child".toList then (cutPositioned? false true inner).map one
      else if name = "nth-of-type".toList then (cutPositioned? true false inner).map one
      else if name = "nth-last-of-type".toList then (cutPositioned? true true inner).map one
      else (call? name).map fun call => ([.opening call], inner)
    | s => (pseudoClass? name).map fun simples => (simples.map .simple, s)

/-! ## Combinators -/

/-- The combinator or comma that a character writes. -/
def ofMark? (c : Char) : Option Token :=
  if c = ',' then some .comma
  else if c = '>' then some (.combinator .child)
  else if c = '+' then some (.combinator .next)
  else if c = '~' then some (.combinator .later)
  else none

/-- The combinator or comma that a text begins with, and what follows it with its filler. White
space is a combinator itself unless a mark comes right behind it. -/
def cutCombinator? (s : Text) : Option (Token × Text) :=
  match s with
  | [] => none
  | c :: t =>
    match ofMark? c with
    | some token => some (token, dropFiller t)
    | none =>
      match _h : afterFiller? (c :: t) with
      | none => none
      | some rest =>
        if (afterSpace? (c :: t)).isSome && !rest.head?.any (ofMark? · |>.isSome) then
          some (.combinator .descendant, dropFiller rest)
        else cutCombinator? rest
termination_by s.length
decreasing_by exact length_afterFiller? _h

/-! ## Selectors -/

/-- The tokens that a text begins with, and what follows them. -/
def readFront? (s : Text) : Option (List Token × Text) :=
  match dropFiller s with
  | ')' :: rest => some ([.closing], rest)
  | _ =>
    let named (make : Text → Simple) (s : Text) :=
      (cutName? s).map fun r => ([Token.simple (make r.1)], r.2)
    match s with
    | [] => none
    | c :: rest =>
      if c = ':' then readPseudo? rest
      else if c = '#' then named .identified rest
      else if c = '.' then named .classed rest
      else if c = '[' then (cutAttribute? rest).map fun r => ([.simple r.1], r.2)
      else
        match cutSpaced? cutElementName? s with
        | some (space, name, rest) => some ([.simple (.named space name)], rest)
        | none => (cutCombinator? s).map fun r => ([r.1], r.2)

/-- The tokens of a text up to the filler of the given length at its end. -/
def readAll? (filler : Nat) (s : Text) : Option (List Token) :=
  if s.length ≤ filler then some []
  else
    match readFront? s with
    | none => none
    | some (tokens, rest) =>
      if _h : rest.length < s.length then (readAll? filler rest).map (tokens ++ ·) else none
termination_by s.length

/-- The length of the filler at the end of a text. -/
def fillerLength : Text → Nat
  | [] => 0
  | c :: s => if dropFiller (c :: s) = [] then (c :: s).length else fillerLength s

/-- The tokens of a selector, without the filler around it. -/
def read? (selector : Text) : Option (List Token) :=
  let s := dropFiller (selector.map fun c => if c = '\x00' then '\uFFFD' else c)
  readAll? (fillerLength s) s

end Token

end GeneratedContent.Selector
