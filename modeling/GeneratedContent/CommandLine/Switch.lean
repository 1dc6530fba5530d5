import GeneratedContent.Text.Letter
import GeneratedContent.Text.Quoted

/-!
# Words of a command line

A word of a command line is a switch, an operand, or the mark behind which there are only operands.
The long spelling of a switch may be shortened as long as no other is meant, and an argument may be
attached to a switch.
-/

namespace GeneratedContent.CommandLine

/-- A switch. -/
inductive Switch where
  | help
  | css
  | output
  | cssOutput
  | containerClass
  | tree
  | quiet
  | verbose
deriving DecidableEq, Repr

/-- The spellings of the switches, in order. -/
def spellings : List (Text × Switch) := [
  ("-h".toList, .help), ("--help".toList, .help), ("--css".toList, .css),
  ("--output".toList, .output), ("-o".toList, .output), ("--css-output".toList, .cssOutput),
  ("--container-class".toList, .containerClass), ("--tree-backend".toList, .tree),
  ("--quiet".toList, .quiet), ("--verbose".toList, .verbose)]

/-- The switch of a spelling. -/
def Switch.ofSpelling? (s : Text) : Option Switch := (spellings.find? (·.1 = s)).map Prod.snd

/-- How a switch is named in messages: by all its spellings. -/
def Switch.name (s : Switch) : Text :=
  List.intercalate ['/'] ((spellings.filter (·.2 = s)).map Prod.fst)

/-- Whether a switch stands for itself, without an argument. -/
def Switch.isBare : Switch → Bool
  | .help => true
  | .quiet => true
  | .verbose => true
  | _ => false

/-- An error in a command line. -/
inductive UsageError where
  /-- A shortened switch may be one of several. -/
  | ambiguous (word : Text) (spellings : List Text)
  /-- A switch lacks its argument. -/
  | lacksArgument (s : Switch)
  /-- A switch has an argument and takes none. -/
  | takesNone (s : Switch) (argument : Text)
  /-- The operand is missing. -/
  | lacksOperand
  /-- There are words that nothing can be made of. -/
  | leftOver (words : List Text)
  /-- Two switches contradict each other. -/
  | quietAndVerbose
deriving DecidableEq

namespace UsageError

/-- What is said about an error. -/
def reason : UsageError → Text
  | .ambiguous word spellings =>
    "ambiguous option: ".toList ++ word ++ " could match ".toList ++
      List.intercalate ", ".toList spellings
  | .lacksArgument s => "argument ".toList ++ s.name ++ ": expected one argument".toList
  | .takesNone s argument =>
    "argument ".toList ++ s.name ++ ": ignored explicit argument ".toList ++ Text.inQuotes argument
  | .lacksOperand => "the following arguments are required: html".toList
  | .leftOver words => "unrecognized arguments: ".toList ++ List.intercalate [' '] words
  | .quietAndVerbose => "--quiet and --verbose cannot be combined.".toList

/-- The line that reports an error. -/
def message (e : UsageError) : Text := "pseudoshim: error: ".toList ++ e.reason

end UsageError

/-- What is attached to a switch. -/
structure Attached where
  /-- Whether an equals sign stands before it. -/
  signed : Bool
  /-- The text. -/
  text : Text

/-- A word of a command line. -/
inductive Word where
  /-- An operand, or an argument of the switch before it. -/
  | operand (text : Text)
  /-- The mark behind which there are only operands. -/
  | mark
  /-- A switch, and what is attached to it. -/
  | switch (s : Switch) (attached : Option Attached)
  /-- A word that looks like a switch and is none. -/
  | unknown (text : Text)

namespace Word

/-- Whether a text that begins with a hyphen is a negative number. -/
def isNumber (s : Text) : Bool :=
  let s := if s.getLast? = some '\n' then s.dropLast else s
  let fraction := (s.tail.dropWhile isDecimalDigit)
  match fraction with
  | [] => s.tail != []
  | '.' :: digits => digits != [] && digits.all isDecimalDigit
  | _ => false

/-- Whether a text begins with another. -/
def begins (front s : Text) : Bool := (Text.after? front s).isSome

/-- The switches that a text may shorten, or have an argument attached to without a sign. -/
def candidates (s : Text) : List (Text × Switch × Option Attached) :=
  if begins "--".toList s then
    let name := s.takeWhile (· != '=')
    let attached := (Text.cutAt? '=' s).map fun (_, argument) => Attached.mk true argument
    (spellings.filter fun e => begins name e.1).map fun e => (e.1, e.2, attached)
  else
    (spellings.filter fun e => e.1 = s.take 2).map fun e => (e.1, e.2, some ⟨false, s.drop 2⟩)

/-- Reads a text that begins with a hyphen and is spelled like no switch. -/
def readLoose (s : Text) : Except UsageError Word :=
  match candidates s with
  | [] => .ok (if isNumber s || s.contains ' ' then .operand s else .unknown s)
  | [(_, meant, attached)] => .ok (.switch meant attached)
  | found => .error (.ambiguous s (found.map Prod.fst))

/-- Reads a word in front of the mark. -/
def read (s : Text) : Except UsageError Word :=
  if s.head? ≠ some '-' ∨ s = ['-'] then .ok (.operand s)
  else
    match Switch.ofSpelling? s with
    | some spelled => .ok (.switch spelled none)
    | none =>
      match Text.cutAt? '=' s with
      | none => readLoose s
      | some (name, argument) =>
        match Switch.ofSpelling? name with
        | some spelled => .ok (.switch spelled (some ⟨true, argument⟩))
        | none => readLoose s

/-- Reads the words of a command line. -/
def readAll : List Text → Except UsageError (List Word)
  | [] => .ok []
  | s :: rest =>
    if s = "--".toList then .ok (.mark :: rest.map .operand)
    else do
      let w ← read s
      let ws ← readAll rest
      return w :: ws

end Word

end GeneratedContent.CommandLine
