import GeneratedContent.CommandLine.Switch
import GeneratedContent.File.Path
import GeneratedContent.Settings
import GeneratedContent.Text.Blank

/-!
# Invocations

An invocation is what a command line asks for: the settings, where the page and the stylesheet are
read and written, and how much is said on the way.
-/

namespace GeneratedContent.CommandLine

/-- What a command line asks for. -/
structure Invocation where
  /-- The settings of the conversion. -/
  settings : Settings := {}
  /-- Where the page is: a path, or a hyphen for the standard input. -/
  html : Text
  /-- Where the stylesheet is. -/
  css : Option FilePath := none
  /-- Where the page goes, if not to the standard output. -/
  output : Option FilePath := none
  /-- Where the rest of the stylesheet goes. -/
  cssOutput : Option FilePath := none
  /-- Whether more is said than needed. -/
  verbose : Bool := false
  /-- Whether nothing is said but errors. -/
  quiet : Bool := false
deriving DecidableEq

/-- What comes of reading a command line without an error. -/
inductive Request where
  /-- An invocation. -/
  | invocation (i : Invocation)
  /-- A request for help. -/
  | help

/-! ## Arguments -/

/-- What has been read of a command line. -/
structure Arguments where
  /-- The operand. -/
  operand : Option Text := none
  /-- The arguments of the switches, in order. -/
  given : List (Switch × Text) := []
  /-- The switches without argument. -/
  set : List Switch := []
  /-- The words that nothing can be made of, in order. -/
  leftOver : List Text := []

namespace Arguments

/-- The last argument of a switch. -/
def last? (a : Arguments) (s : Switch) : Option Text :=
  ((a.given.filter (·.1 = s)).getLast?).map Prod.snd

/-- The path that a switch names. The empty text names none. -/
def path? (a : Arguments) (s : Switch) : Option FilePath :=
  match a.last? s with
  | none => none
  | some text => if text = [] then none else some (.ofText text)

/-- The classes of containers: they may be given with leading dots. -/
def containerClasses (a : Arguments) : List Text :=
  let given := (a.given.filter (·.1 = .containerClass)).map Prod.snd
  if given = [] then ({} : Settings).containerClasses
  else (given.map fun s => (Text.trim s).dropWhile (· == '.')).filter (!·.isEmpty)

/-- The settings of the conversion. -/
def settings (a : Arguments) : Settings :=
  { containerClasses := a.containerClasses
    tree := (a.last? .tree).getD ({} : Settings).tree }

/-- The invocation, if nothing is missing or left over. -/
def invocation (a : Arguments) : Except UsageError Invocation :=
  match a.operand with
  | none => .error .lacksOperand
  | some html =>
    if a.leftOver ≠ [] then .error (.leftOver a.leftOver)
    else if a.set.contains .quiet && a.set.contains .verbose then .error .quietAndVerbose
    else
      .ok {
        settings := a.settings
        html := html
        css := a.path? .css
        output := a.path? .output
        cssOutput := a.path? .cssOutput
        verbose := a.set.contains .verbose
        quiet := a.set.contains .quiet }

end Arguments

/-! ## Words -/

/-- Whether what is attached to the short spelling of the switch for help is in order. It is read as
short switches in a row, of which only the last may lack its argument, to find it in the next
word. -/
def checkHelp (signed : Bool) (attached : Text) (next : Option Word) : Except UsageError Unit :=
  match attached with
  | [] => if signed then .error (.takesNone .help []) else .ok ()
  | c :: rest =>
    if signed ∨ c = '-' then .error (.takesNone .help attached)
    else if c = 'h' then
      match rest with
      | '=' :: argument => .error (.takesNone .help argument)
      | rest => checkHelp false rest next
    else if c = 'o' ∧ rest = [] then
      match next with
      | some (.operand _) => .ok ()
      | _ => .error (.lacksArgument .output)
    else .ok ()

/-- Reads the words of a command line after others. The first operand counts, together with the mark
before it or behind it, and a switch takes the operand behind it as its argument if none is
attached to it. -/
def readWords (a : Arguments) : List Word → Except UsageError Request
  | [] => a.invocation.map .invocation
  | .operand text :: ws =>
    match a.operand, ws with
    | none, .mark :: ws => readWords { a with operand := some text } ws
    | none, ws => readWords { a with operand := some text } ws
    | some _, ws => readWords { a with leftOver := a.leftOver ++ [text] } ws
  | .mark :: ws =>
    match a.operand, ws with
    | none, .operand text :: ws => readWords { a with operand := some text } ws
    | _, ws => readWords { a with leftOver := a.leftOver ++ ["--".toList] } ws
  | .unknown text :: ws => readWords { a with leftOver := a.leftOver ++ [text] } ws
  | .switch .help attached :: ws =>
    match attached with
    | none => .ok .help
    | some t => (checkHelp t.signed t.text ws.head?).map fun _ => .help
  | .switch s attached :: ws =>
    match attached with
    | some t =>
      if s.isBare then .error (.takesNone s t.text)
      else readWords { a with given := a.given ++ [(s, t.text)] } ws
    | none =>
      if s.isBare then readWords { a with set := a.set ++ [s] } ws
      else
        match ws with
        | .operand text :: ws => readWords { a with given := a.given ++ [(s, text)] } ws
        | _ => .error (.lacksArgument s)

/-- Reads a command line. -/
def read (words : List Text) : Except UsageError Request := do
  let ws ← Word.readAll words
  readWords {} ws

end GeneratedContent.CommandLine
