import GeneratedContent.Content.Basic
import GeneratedContent.Content.Token
import GeneratedContent.Text.Caseless

/-!
# Reading content values

Each token of a content value states one part. Strings are unquoted, calls of the counter and
attribute functions are interpreted, any other call and word stands for itself, and what says
nothing leaves no part. A mark of importance at the end is not part of the value.
-/

namespace GeneratedContent.Content

/-- The texts that stand for no content. -/
def isEmptyKeyword (s : Text) : Bool :=
  let s := Text.lower s
  s == "none".toList || s == "normal".toList

/-- Whether a text can name a numbering style: lower-case ASCII letters and hyphens. -/
def isStyleName (s : Text) : Bool := !s.isEmpty && s.all fun c => c.isLower || c == '-'

/-- The numbering style that an argument names; decimal where it names none. -/
def styleOfArgument (argument : Option Text) : Text :=
  let style := Text.lower (argument.getD [])
  if isStyleName style then style else "decimal".toList

/-- The first argument of a call, and the others, all without outer blanks. -/
def argumentsOf (written : Text) : Text × List Text :=
  match (Text.splitAt ',' written).map Text.trim with
  | [] => ([], [])
  | first :: others => (first, others)

/-- The part that a call states. `counters` has a separator before its style, which is not used
since only the innermost counter is shown; of the arguments of `attr` only the attribute's name
counts. -/
def ofCall (name arguments written : Text) : Content :=
  let name := Text.lower name
  let (first, others) := argumentsOf arguments
  if first = [] then .literal written
  else if name = "counter".toList then .counter first (styleOfArgument others[0]?)
  else if name = "counters".toList then .counter first (styleOfArgument others[1]?)
  else if name = "attr".toList then .ofAttribute (first.takeWhile (!isBlank ·))
  else .literal written

/-- The part that a token states, if it states one. -/
def ofToken? : Token → Option Content
  | .quoted token =>
    let text := unquote token
    if text = [] then none else some (.literal text)
  | .call name arguments written => some (ofCall name arguments written)
  | .word text => if isEmptyKeyword text then none else some (.literal text)

/-- The content made of parts. -/
def ofParts : List Content → Content
  | [] => .empty
  | [part] => part
  | parts => .sequence parts

/-- What precedes a mark of importance at the end of a text, which is given last character first. -/
def beforeImportance? (reversed : Text) : Option Text :=
  match Text.afterCaseless? "important".toList.reverse (Text.trimLeft reversed) with
  | some rest =>
    match Text.trimLeft rest with
    | '!' :: rest => some rest
    | _ => none
  | none => none

/-- A value without the mark of importance at its end. -/
def dropFinalImportance (value : Text) : Text :=
  match beforeImportance? value.reverse with
  | some rest => rest.reverse
  | none => value

/-- The content that the value of a `content` declaration states. -/
def read (value : Text) : Content :=
  let value := Text.trim (dropFinalImportance value)
  if value = [] ∨ isEmptyKeyword value then .empty
  else ofParts ((Token.read value).filterMap ofToken?)

end GeneratedContent.Content
