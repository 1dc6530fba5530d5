import GeneratedContent.Html.Node
import GeneratedContent.Html.Reference
import GeneratedContent.Text.Blank
import GeneratedContent.Text.Caseless
import GeneratedContent.Text.Quoted

/-!
# Events of a page

A page is read from left to right as start tags, end tags, text and asides, without regard to how
they nest. A construct that the page ends before its close is read as text in a second attempt: the
first attempt stops there, and the second goes on behind the opening of what is not closed. A marked
section without a known keyword is rejected, and the page with it: nothing behind it is read.
-/

namespace GeneratedContent.Html

/-- Why the markup of a page is rejected. -/
inductive Rejection where
  /-- A marked section begins with no keyword. Its first characters are shown. -/
  | noKeyword (front : Text)
  /-- A marked section has an unknown keyword, which is shown with the blanks behind it. -/
  | unknownKeyword (keyword : Text)
deriving DecidableEq, Repr

/-- What is said about rejected markup. -/
def Rejection.message : Rejection → Text
  | .noKeyword front => "expected name token at ".toList ++ Text.inQuotes front
  | .unknownKeyword keyword =>
    "unknown status keyword ".toList ++ Text.inQuotes keyword ++ " in marked section".toList

/-- What comes next in a page. -/
inductive Event where
  /-- A start tag with its attributes as read, and whether it closes itself. -/
  | startTag (name : Text) (attributes : List (Text × Text)) (closed : Bool)
  /-- An end tag. -/
  | endTag (name : Text)
  /-- Text. -/
  | text (content : Text)
  /-- A surrogate in text, which a reference names. No text can hold it as it is. -/
  | surrogate (number : Nat)
  /-- A comment or its like. -/
  | aside (kind : Aside) (content : Text)
  /-- Markup that is rejected. -/
  | rejected (reason : Rejection)
deriving Repr

namespace Event

/-! ## Attributes -/

/-- Whether a character can be part of the name of a tag. -/
def isTagNamePart (c : Char) : Bool :=
  !(c == '\t' || c == '\n' || c == '\r' || c == '\x0C' || c == ' ' || c == '/' || c == '>' ||
    c == '\x00')

/-- A text without the blanks and slashes at its front; the slash of `/>` stays. -/
def dropGap : Text → Text
  | [] => []
  | '/' :: '>' :: s => '/' :: '>' :: s
  | c :: s => if isBlank c || c == '/' then dropGap s else c :: s

/-- Whether an attribute may begin behind a character. -/
def isAttributeLead (c : Char) : Bool := c == '"' || c == '\'' || c == '/' || isBlank c

/-- Whether a character can be part of an attribute value without quotes. -/
def isBarePart (c : Char) : Bool := c != '>' && !isBlank c

/-- Whether a character can be part of the name of an attribute. -/
def isAttributePart (c : Char) : Bool := !(isBlank c || c == '/' || c == '=' || c == '>')

/-- The value that follows the name of an attribute, the last character before what follows it, and
what follows it. A quote that is not closed opens no value: the value is then empty if a blank stands
before the quote, and otherwise begins with the last of several equals signs. -/
def cutValue? (s : Text) : Option (Text × Char × Text) :=
  let s := s.dropWhile isBlank
  let signs := s.takeWhile (· == '=')
  let behind := s.dropWhile (· == '=')
  let value := behind.dropWhile isBlank
  let bare (v : Text) := some (v.takeWhile isBarePart, (v.takeWhile isBarePart).getLastD ' ',
    v.dropWhile isBarePart)
  if signs = [] then none
  else
    match value with
    | [] => bare []
    | q :: inner =>
      if q = '"' ∨ q = '\'' then
        match Text.cutAt? q inner with
        | some (v, rest) => some (v, q, rest)
        | none =>
          if behind.head?.any isBlank then some ([], ' ', value)
          else if 2 ≤ signs.length then bare ('=' :: value)
          else none
      else bare value

/-- The attribute that a text begins with behind a character, the last character before what
follows it, and what follows it. -/
def cutAttribute? (before : Char) (s : Text) : Option ((Text × Text) × Char × Text) :=
  match s with
  | [] => none
  | c :: r =>
    if isAttributeLead before && !isBlank c && c != '/' && c != '>' then
      let name := c :: r.takeWhile isAttributePart
      let rest := r.dropWhile isAttributePart
      match cutValue? rest with
      | some (value, last, rest) => some ((Text.lower name, decodeValue value), last, rest)
      | none => some ((Text.lower name, []), name.getLastD ' ', rest)
    else none

/-- The attributes that a text begins with behind a character, and what follows them. -/
def cutAttributes (before : Char) (s : Text) : List (Text × Text) × Text :=
  let t := dropGap s
  let before := if t.length < s.length then ' ' else before
  match cutAttribute? before t with
  | none => ([], t)
  | some (a, last, rest) =>
    if rest.length < s.length then
      let (others, rest) := cutAttributes last rest
      (a :: others, rest)
    else ([a], rest)
termination_by s.length

/-! ## Pieces of markup -/

/-- What is read at the beginning of a text. -/
inductive Piece where
  /-- Events, and what follows them. -/
  | events (events : List Event) (rest : Text)
  /-- The start tag of an element with raw text, and what follows it. -/
  | raw (tag : Event) (name : Text) (rest : Text)
  /-- A construct that is opened and not closed. -/
  | unclosed
  /-- A construct that is rejected. -/
  | rejected (reason : Rejection)
  /-- Events, and a rest that nothing can be made of. -/
  | stuck (events : List Event) (rest : Text)

/-- The front of a text that ends where the rest begins, as text. -/
def textBefore (rest s : Text) : Event := .text (s.take (s.length - rest.length))

/-- The start tag that a text begins with. What is not ended in the way of a tag is text. -/
def readStartTag (s : Text) : Piece :=
  let inner := s.drop 1
  let name := Text.lower (inner.takeWhile isTagNamePart)
  let (attributes, rest) := cutAttributes ((inner.takeWhile isTagNamePart).getLastD ' ')
    (inner.dropWhile isTagNamePart)
  match rest with
  | [] => .unclosed
  | '>' :: rest =>
    if isRawText name then .raw (.startTag name attributes false) name rest
    else .events [.startTag name attributes false] rest
  | '/' :: '>' :: rest => .events [.startTag name attributes true] rest
  | c :: _ =>
    if c.isAlpha || c == '=' || c == '/' then .unclosed
    else .events [textBefore rest s] rest

/-- Whether a character can be part of the name of an end tag. -/
def isEndNamePart (c : Char) : Bool :=
  c.isAlphanum || c == '-' || c == '.' || c == ':' || c == '_'

/-- The plain end tag whose inside a text begins with: a name between blanks, and the bracket. -/
def plainEndTag? (inner : Text) : Option (Text × Text) :=
  let t := inner.dropWhile isBlank
  if t.head?.any Char.isAlpha then
    match (t.dropWhile isEndNamePart).dropWhile isBlank with
    | '>' :: rest => some (Text.lower (t.takeWhile isEndNamePart), rest)
    | _ => none
  else none

/-- What begins with a bracket and a slash: an end tag, nothing, or a comment. What stands in an end
tag behind its name does not count. -/
def readEndTag (s : Text) : Piece :=
  let inner := s.drop 2
  match Text.cutAt? '>' inner with
  | none => .unclosed
  | some (content, rest) =>
    match plainEndTag? inner with
    | some (name, rest) => .events [.endTag name] rest
    | none =>
      if inner.head?.any Char.isAlpha then
        .events [.endTag (Text.lower (inner.takeWhile isTagNamePart))] rest
      else if content = [] then .events [] rest
      else .events [.aside .comment content] rest

/-- What follows the end of a comment at the front of a text: two hyphens, blanks and a bracket. -/
def afterCommentEnd? : Text → Option Text
  | '-' :: '-' :: s =>
    match s.dropWhile isBlank with
    | '>' :: rest => some rest
    | _ => none
  | _ => none

/-- What follows the end of a marked section at the front of a text: `count` square brackets and
a bracket, with blanks between them. -/
def afterSectionEnd? : (count : Nat) → Text → Option Text
  | 0, s =>
    match s with
    | '>' :: rest => some rest
    | _ => none
  | count + 1, s =>
    match s with
    | ']' :: rest => afterSectionEnd? count (rest.dropWhile isBlank)
    | _ => none

/-- What stands before the first place where `ending` finds an end, and what follows the end. -/
def cutWhere? (ending : Text → Option Text) : Text → Option (Text × Text)
  | [] => none
  | c :: s =>
    match ending (c :: s) with
    | some rest => some ([], rest)
    | none => (cutWhere? ending s).map fun r => (c :: r.1, r.2)

/-- An aside up to an end. -/
def readAside (kind : Aside) (cut : Option (Text × Text)) : Piece :=
  match cut with
  | some (content, rest) => .events [.aside kind content] rest
  | none => .unclosed

/-- Whether a character can be part of the keyword of a marked section. -/
def isKeywordPart (c : Char) : Bool := c.isAlphanum || c == '-' || c == '_' || c == '.'

/-- What follows the end of a marked section with a keyword, if the keyword is known. -/
def sectionEnd? (keyword : Text) : Option (Text → Option Text) :=
  if ["temp", "cdata", "ignore", "include", "rcdata"].any (·.toList = keyword) then
    some (afterSectionEnd? 2)
  else if ["if", "else", "endif"].any (·.toList = keyword) then some (afterSectionEnd? 1)
  else none

/-- A marked section, whose inside is given. Its keyword says how it ends. -/
def readSection (inner : Text) : Piece :=
  let keyword := inner.takeWhile isKeywordPart
  let behind := (inner.dropWhile isKeywordPart).dropWhile isBlank
  if inner = [] then .unclosed
  else if !inner.head?.any Char.isAlpha then .rejected (.noKeyword (("<![".toList ++ inner).take 20))
  else if behind = [] then .unclosed
  else
    match sectionEnd? (Text.lowerAscii keyword) with
    | none => .rejected (.unknownKeyword (inner.take (inner.length - behind.length)))
    | some ending =>
      match cutWhere? ending inner with
      | none => .unclosed
      | some (content, rest) =>
        match Text.afterCaseless? "cdata[".toList content with
        | some data => .events [.aside .characterData data] rest
        | none => .events [.aside .declaration content] rest

/-- What begins with a bracket and an exclamation mark. -/
def readDeclaration (s : Text) : Piece :=
  let inner := s.drop 2
  match Text.after? "--".toList inner with
  | some comment => readAside .comment (cutWhere? afterCommentEnd? comment)
  | none =>
    match Text.after? ['['] inner with
    | some sectionText => readSection sectionText
    | none =>
      match Text.afterCaseless? "doctype".toList inner with
      | some behind =>
        readAside .documentType ((Text.cutAt? '>' behind).map fun r => (r.1.drop 1, r.2))
      | none => readAside .comment (Text.cutAt? '>' inner)

/-- What begins with a bracket. -/
def readTag (s : Text) : Piece :=
  match s.drop 1 with
  | [] => .stuck [] s
  | c :: rest =>
    if c.isAlpha then readStartTag s
    else if c = '/' then readEndTag s
    else if c = '!' then readDeclaration s
    else if c = '?' then readAside .instruction (Text.cutAt? '>' rest)
    else .events [.text ['<']] (c :: rest)

/-- What is made of an opening bracket whose construct is not closed: text up to and with the next
closing bracket, or up to the next opening one, or the bracket alone. -/
def readUnclosed (s : Text) : Piece :=
  let inner := s.drop 1
  let rest :=
    match Text.cutAt? '>' inner with
    | some (_, rest) => rest
    | none => if inner.contains '<' then inner.dropWhile (· != '<') else inner
  .events [textBefore rest s] rest

/-! ## References in text -/

/-- What a number stands for in text. -/
def ofNumber (n : Nat) : Event := if isSurrogate n then .surrogate n else .text [numberedChar n]

/-- The numeric reference whose inside a text begins with, in a base, as an event, and what follows it. A
digit of any base right behind it spoils it, and so does the end of the page. -/
def cutNumbered? (base : Nat) (isDigit : Char → Bool) (s : Text) : Option (Event × Text) :=
  match s.takeWhile isDigit, s.dropWhile isDigit with
  | [], _ => none
  | _, [] => none
  | digits, c :: rest =>
    if isHexDigit c then none
    else some (ofNumber (Text.toNumber base digits), if c = ';' then rest else c :: rest)

/-- What begins with an ampersand and a number sign. -/
def readNumbered (s : Text) : Piece :=
  let inner := s.drop 2
  let found :=
    match inner with
    | 'x' :: r => cutNumbered? 16 isHexDigit r
    | 'X' :: r => cutNumbered? 16 isHexDigit r
    | r => cutNumbered? 10 Char.isDigit r
  match found with
  | some (event, rest) => .events [event] rest
  | none => if inner.contains ';' then .stuck [.text ['&', '#']] inner else .stuck [] s

/-- Whether a character can be part of a name in text. -/
def isEntityPart (c : Char) : Bool := c.isAlphanum || c == '-' || c == '.'

/-- The name that a text begins with, and what follows it. A name that reaches to the end of the page
is cut before its last hyphen or full stop. -/
def cutName? (s : Text) : Option (Text × Text) :=
  if !s.head?.any Char.isAlpha then none
  else
    let run := s.takeWhile isEntityPart
    match s.dropWhile isEntityPart with
    | c :: rest => some (run, if c = ';' then rest else c :: rest)
    | [] =>
      let tail := run.reverse.takeWhile Char.isAlphanum
      if tail.length < run.length then
        some (run.take (run.length - tail.length - 1), run.drop (run.length - tail.length - 1))
      else none

/-- What begins with an ampersand. -/
def readReference (final : Bool) (s : Text) : Piece :=
  match s.drop 1 with
  | [] => .stuck [] s
  | c :: rest =>
    if c = '#' then readNumbered s
    else
      match cutName? (c :: rest) with
      | some (name, rest) => .events [.text (namedInText name)] rest
      | none =>
        if c.isAlpha then .stuck [] (if final && rest = [] then [c] else s)
        else .events [.text ['&']] (c :: rest)

/-! ## Pages -/

/-- Text as an event, unless there is none. -/
def ofText (s : Text) : List Event := if s = [] then [] else [.text s]

/-- Whether a text begins with the end tag of a name, and what follows it. -/
def afterEndTag? (name s : Text) : Option Text :=
  match Text.after? ['<', '/'] s with
  | none => none
  | some s =>
    match Text.afterCaseless? name (s.dropWhile isBlank) with
    | none => none
    | some s =>
      match s.dropWhile isBlank with
      | '>' :: rest => some rest
      | _ => none

/-- Whether a character begins markup. -/
def isMark (c : Char) : Bool := c == '<' || c == '&'

/-- The events of a text. In the final attempt nothing more is expected behind the text, so that
what is not closed is text. Raw text without its end tag is lost. -/
def readFrom (final : Bool) (s : Text) : List Event :=
  let before := s.takeWhile (!isMark ·)
  let marked := s.dropWhile (!isMark ·)
  let again (rest : Text) : List Event :=
    if _h : rest.length < s.length then readFrom final rest else []
  let stop (rest : Text) : List Event :=
    if final then ofText rest
    else if _h : rest.length ≤ s.length then readFrom true rest else []
  let piece :=
    match marked with
    | [] => none
    | '<' :: _ => some (readTag marked)
    | _ => some (readReference final marked)
  ofText before ++
    match piece with
    | none => []
    | some (.events events rest) => events ++ again rest
    | some (.raw tag name rest) =>
      tag ::
        match cutWhere? (afterEndTag? name) rest with
        | none => []
        | some (content, rest) => ofText content ++ .endTag name :: again rest
    | some .unclosed =>
      if final then
        match readUnclosed marked with
        | .events events rest => events ++ again rest
        | _ => []
      else stop marked
    | some (.rejected reason) => [.rejected reason]
    | some (.stuck events rest) => events ++ stop rest
termination_by 2 * s.length + if final then 0 else 1
decreasing_by
  · split <;> omega
  · rename_i hf
    rw [if_pos trivial, if_neg hf]
    omega

/-- The events of a page. -/
def read (page : Text) : List Event := readFrom false page

/-- Why an event is rejected, if it is. -/
def rejection? : Event → Option Rejection
  | .rejected reason => some reason
  | _ => none

end Event

/-- Why the markup of a page is rejected, if it is. -/
def rejection? (page : Text) : Option Rejection := (Event.read page).findSome? Event.rejection?

end GeneratedContent.Html
