import GeneratedContent.CommandLine.Help
import GeneratedContent.CommandLine.Run

/-!
# The program

Reads the command line and carries out what it asks for on the files of the system. Everything that
is decided is decided elsewhere; this module only puts requests to the system and hands on answers.
-/

namespace GeneratedContent.Program

/-- Why the system refused a request. -/
def problemOf : IO.Error → FileProblem
  | .noFileOrDirectory _ _ _ => .notFound
  | .alreadyExists _ _ _ => .alreadyExists
  | .inappropriateType _ number reason =>
    if number = 20 then .notFolder
    else if number = 21 then .isFolder
    else .other number.toNat reason.toList
  | .permissionDenied _ number reason => .other number.toNat reason.toList
  | .resourceExhausted _ number reason => .other number.toNat reason.toList
  | .invalidArgument _ number reason => .other number.toNat reason.toList
  | e => .other 5 e.toString.toList

/-- Asks the system for something. A refusal says how far the request has come, but for folders, which
are not even opened. -/
def attempt {α : Type} (reached : Option Nat) (action : IO α) : ExceptT Refusal IO α := do
  match ← action.toBaseIO with
  | .ok answer => return answer
  | .error e =>
    let problem := problemOf e
    throw { problem, reached := if problem = .isFolder then none else reached }

/-- The text of a path, for the system. -/
def nameOf (path : FilePath) : String := String.ofList path.text

/-- Puts a request to the system. How far a request has come that is broken off is not known. -/
def put : (request : Request) → ExceptT Refusal IO request.Answer
  | .readFile path => do
    let file ← attempt none (IO.FS.Handle.mk (nameOf path) .read)
    let bytes ← attempt (some 0) file.readBinToEnd
    return bytes.toList
  | .readInput => do
    let bytes ← attempt (some 0) do (← IO.getStdin).readBinToEnd
    return bytes.toList
  | .makeFolder path => attempt none (IO.FS.createDir (nameOf path))
  | .askFolder path => attempt none do
    let there ← IO.FS.realPath (nameOf path)
    there.isDir
  | .writeFile path content => do
    let file ← attempt none (IO.FS.Handle.mk (nameOf path) .write)
    attempt (some 0) do
      file.write ⟨content.toArray⟩
      file.flush
  | .print text => attempt (some 0) do
    let output ← IO.getStdout
    output.putStr (String.ofList text)
    output.flush

/-- Writes lines to the standard error. -/
def report (lines : List Text) : IO Unit := do
  for line in lines do
    (← IO.getStderr).putStrLn (String.ofList line)

/-- Carries out a script on the files of the system. -/
def perform : Script → IO UInt32
  | .done status => return status.toUInt32
  | .stop fault => do
    report [fault.message]
    return 1
  | .ask request next => do
    let answer ← (put request).run
    perform (next answer)
  | .log line next => do
    report [line]
    perform next

end GeneratedContent.Program

open GeneratedContent

/-- Carries out what the command line asks for. -/
def main (words : List String) : IO UInt32 := do
  match CommandLine.read (words.map String.toList) with
  | .error e =>
    Program.report (CommandLine.usageLines ++ [e.message])
    return 2
  | .ok .help =>
    for line in CommandLine.helpLines do
      (← IO.getStdout).putStrLn (String.ofList line)
    return 0
  | .ok (.invocation i) => Program.perform i.script
