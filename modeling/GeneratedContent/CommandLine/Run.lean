import GeneratedContent.CommandLine.Invocation
import GeneratedContent.Conversion
import GeneratedContent.File.Script

/-!
# Carrying out an invocation

The page and the stylesheet are read first, then converted, and written last. What is said on the way
goes to the log, since the standard output may carry the page. How they are converted is a parameter
(`scriptBy`): what is true of every conversion is true of one with limits on depth, size or the digits of
numbers as well, which are not part of `convertOrStop`.
-/

namespace GeneratedContent

/-! ## What cannot be converted or written -/

/-- A name for an element in the place of a surrogate. No tag in a page has it. -/
def surrogateName : Text := ['\x00']

/-- An event, or an empty element in the place of a surrogate. -/
def Html.Event.standIn : Event → Event
  | .surrogate _ => .startTag surrogateName [] true
  | e => e

/-- Whether the text of a page, without the markers of an earlier injection, holds a surrogate. -/
def Html.keepsSurrogate (page : Text) : Bool :=
  let p := (Page.ofEvents ((Event.read page).map Event.standIn)).withoutMarkers
  !(p.named surrogateName).isEmpty

/-- What comes of a page and its stylesheet. -/
structure Results where
  /-- The page, unless it cannot be written. -/
  page : Except Malformed Text
  /-- The rest of the stylesheet. -/
  css : Text
  /-- The warnings, in order. -/
  warnings : List Warning

/-- Converts a page and its stylesheet, unless the markup of the page is rejected. Without rules the page
is not looked at; otherwise a surrogate that it keeps is found out when the page is to be written. -/
def convertOrStop (settings : Settings) (html css : Text) : Except Fault Results :=
  match convert settings html css with
  | .error e => .error (.unknownTree e)
  | .ok r =>
    if (Rule.extract settings.containerClasses css).isEmpty then .ok ⟨.ok r.html, r.css, r.warnings⟩
    else
      match Html.rejection? html with
      | some reason => .error (.malformed (.page reason.message))
      | none =>
        let page := if Html.keepsSurrogate html then .error (.page "surrogates not allowed".toList)
          else .ok r.html
        .ok ⟨page, r.css, r.warnings⟩

namespace CommandLine.Invocation

/-- Says something, unless nothing is to be said. -/
def say (i : Invocation) (line : Text) (next : Script) : Script :=
  if i.quiet then next else .log line next

/-- Says something that is not needed. -/
def sayMore (i : Invocation) (line : Text) (next : Script) : Script :=
  if i.verbose then i.say line next else next

/-- Goes on with the page. -/
def readHtml (i : Invocation) (next : Text → Script) : Script :=
  if i.html = ['-'] then Script.demand .readInput fun bytes => Script.withText bytes next
  else Script.readText (.ofText i.html) next

/-- Goes on with the stylesheet, which is empty if there is none. -/
def readCss (i : Invocation) (next : Text → Script) : Script :=
  match i.css with
  | none => next []
  | some path => Script.readText path next

/-- Writes the page. If it cannot be written, this is found out when its file has been opened. -/
def writeHtml (i : Invocation) (page : Except Malformed Text) (next : Script) : Script :=
  match i.output with
  | none =>
    match page with
    | .error m => .stop (.malformed m)
    | .ok html => Script.demand (.print html) fun _ => next
  | some path =>
    match page with
    | .error m => Script.writeText path [] (.stop (.malformed m))
    | .ok html => Script.writeText path html next

/-- Writes the rest of the stylesheet, if it has a place to go to. -/
def writeCss (i : Invocation) (css : Text) (next : Script) : Script :=
  match i.cssOutput with
  | none => next
  | some path => Script.writeText path css next

/-- What is said after the rules have been found. -/
def foundLine (count : Nat) : Text :=
  "Extract phase: found ".toList ++ Text.ofNat count ++ " pseudo-element rule(s)".toList

/-- What is said after the stylesheet has been reduced. -/
def reducedLine (before after : Text) : Text :=
  "Sanitize phase: stylesheet reduced from ".toList ++ Text.ofNat before.length ++ " to ".toList ++
    Text.ofNat after.length ++ " character(s)".toList

/-- Says which file has been written, if one has. -/
def sayWritten (i : Invocation) (what : Text) (path : Option FilePath) (next : Script) : Script :=
  match path with
  | none => next
  | some path => i.say (what ++ ": wrote ".toList ++ path.text) next

/-- Writes the results of a conversion. -/
def write (i : Invocation) (r : Results) : Script :=
  i.writeHtml r.page <|
  i.writeCss r.css <|
  i.sayWritten "HTML".toList i.output <|
  i.sayWritten "CSS".toList i.cssOutput <|
  .done 0

section Convert

variable (conversion : Settings → Text → Text → Except Fault Results) (i : Invocation)

/-- Converts a page and its stylesheet in some way, and writes the results. -/
def convertAndWrite (html css : Text) : Script :=
  i.sayMore (foundLine (Rule.extract i.settings.containerClasses css).length) <|
  match conversion i.settings html css with
  | .error f => .stop f
  | .ok r =>
    r.warnings.foldr (fun w next => i.say ("Warning: ".toList ++ w.message) next) <|
    i.sayMore (reducedLine css r.css) <|
    i.write r

/-- Everything that an invocation asks for, with some way to convert a page and its stylesheet. -/
def scriptBy : Script :=
  i.readHtml fun html => i.readCss fun css => i.convertAndWrite conversion html css

end Convert

/-- Everything that an invocation asks for. -/
def script (i : Invocation) : Script := i.scriptBy convertOrStop

end CommandLine.Invocation

end GeneratedContent
