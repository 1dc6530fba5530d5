import GeneratedContent.File.Encoding
import GeneratedContent.File.Path
import GeneratedContent.Settings

/-!
# Scripts

A script is what a program does with the files around it, step by step: it puts one request after the
other to the system, and what comes next depends on the answer. Any request may be refused, before it has
begun or on the way. A script can be carried out on real files as well as on a file system that is only a
value.
-/

namespace GeneratedContent

/-! ## Refusals -/

/-- Why a request is refused. -/
inductive FileProblem where
  /-- There is no such file or folder. -/
  | notFound
  /-- There is a file or a folder already. -/
  | alreadyExists
  /-- A folder on the way is a file. -/
  | notFolder
  /-- A folder is not read or written like a file. -/
  | isFolder
  /-- Any other reason of the system, with its number. -/
  | other (number : Nat) (reason : Text)
deriving DecidableEq

namespace FileProblem

/-- The number of a reason. -/
def number : FileProblem → Nat
  | .notFound => 2
  | .alreadyExists => 17
  | .notFolder => 20
  | .isFolder => 21
  | .other number _ => number

/-- The name of a reason. -/
def reason : FileProblem → Text
  | .notFound => "No such file or directory".toList
  | .alreadyExists => "File exists".toList
  | .notFolder => "Not a directory".toList
  | .isFolder => "Is a directory".toList
  | .other _ reason => reason

/-- What is said about a reason. -/
def text (p : FileProblem) : Text :=
  "[Errno ".toList ++ Text.ofNat p.number ++ "] ".toList ++ p.reason

/-- Whether a reason says that there is nothing at a path: nothing of its name, or on the way, or behind
a link, or a file that is not open. -/
def meansNothing (p : FileProblem) : Bool := [2, 9, 20, 40].contains p.number

end FileProblem

/-- A request that is put to the system. -/
inductive Request where
  /-- Reads a file. -/
  | readFile (path : FilePath)
  /-- Reads the standard input. -/
  | readInput
  /-- Makes one folder. -/
  | makeFolder (path : FilePath)
  /-- Asks whether there is a folder. -/
  | askFolder (path : FilePath)
  /-- Writes a file, in the place of what it held. -/
  | writeFile (path : FilePath) (content : List UInt8)
  /-- Writes to the standard output. -/
  | print (text : Text)

namespace Request

/-- What is answered to a request that is granted. -/
abbrev Answer : Request → Type
  | .readFile _ => List UInt8
  | .readInput => List UInt8
  | .makeFolder _ => Unit
  | .askFolder _ => Bool
  | .writeFile _ _ => Unit
  | .print _ => Unit

/-- The path that a request is about, if it is about one. -/
def path? : Request → Option FilePath
  | .readFile path => some path
  | .readInput => none
  | .makeFolder path => some path
  | .askFolder path => some path
  | .writeFile path _ => some path
  | .print _ => none

end Request

/-- A refusal of a request. -/
structure Refusal where
  /-- Why the request is refused. -/
  problem : FileProblem
  /-- How much had been read or written when the request was broken off, if it had begun: of a file its
  bytes are counted, of the standard output the characters that are there as a whole. -/
  reached : Option Nat := none
deriving DecidableEq

/-- What is said when a request is refused. Its path is named if it has not begun. -/
def Refusal.message (r : Refusal) (request : Request) : Text :=
  match request.path?, r.reached with
  | some path, none => r.problem.text ++ ": ".toList ++ Text.inQuotes path.text
  | _, _ => r.problem.text

/-! ## Faults -/

/-- Something malformed that has been given to a script. -/
inductive Malformed where
  /-- Bytes that are no text. -/
  | bytes (e : EncodingError)
  /-- A path that holds the null character. -/
  | path
  /-- A page that cannot be worked on, for the reason that is given. -/
  | page (reason : Text)
deriving DecidableEq

/-- What is said about something malformed. -/
def Malformed.message : Malformed → Text
  | .bytes e => e.message
  | .path => "embedded null byte".toList
  | .page reason => reason

/-- A fault that a script does not handle. -/
inductive Fault where
  /-- The kind of document tree is unknown. -/
  | unknownTree (e : UnknownTree)
  /-- Something that has been given is malformed. -/
  | malformed (m : Malformed)
deriving DecidableEq

/-- What is said about a fault. -/
def Fault.message : Fault → Text
  | .unknownTree e => e.message
  | .malformed m => m.message

/-! ## Scripts -/

/-- A program that works with files. -/
inductive Script where
  /-- Ends, with a status. -/
  | done (status : Nat)
  /-- Breaks off. -/
  | stop (fault : Fault)
  /-- Puts a request, and goes on with the answer. -/
  | ask (request : Request) (next : Except Refusal request.Answer → Script)
  /-- Writes a line to the log. -/
  | log (line : Text) (next : Script)

namespace Script

/-- Reports that a request is refused, and ends. -/
def fail (request : Request) (r : Refusal) : Script :=
  .log ("Error: ".toList ++ r.message request) (.done 1)

/-- Puts a request that has to be granted. -/
def demand (request : Request) (next : request.Answer → Script) : Script :=
  .ask request fun
    | .error r => fail request r
    | .ok answer => next answer

/-- Goes on with a path, unless it cannot be asked for. -/
def withPath (path : FilePath) (next : Script) : Script :=
  if path.holdsNull then .stop (.malformed .path) else next

/-- Goes on with the text of bytes that have been read. -/
def withText (bytes : List UInt8) (next : Text → Script) : Script :=
  match Text.decode bytes with
  | .error e => .stop (.malformed (.bytes e))
  | .ok s => next (Text.withLineFeeds s)

/-- Goes on with the text of a file. -/
def readText (path : FilePath) (next : Text → Script) : Script :=
  withPath path <| demand (.readFile path) fun bytes => withText bytes next

/-- Goes on after a folder was asked for, if it is there now. -/
def withFolder (path : FilePath) (answer : Except Refusal Unit) (next : Script) : Script :=
  match answer with
  | .ok () => next
  | .error r =>
    if r.problem = .notFound then fail (.makeFolder path) r
    else
      .ask (.askFolder path) fun
        | .ok there => if there then next else fail (.makeFolder path) r
        | .error r' =>
          if r'.problem.meansNothing then fail (.makeFolder path) r else fail (.askFolder path) r'

/-- Whether a folder cannot be made because the one above it is missing. -/
def lacksParent (answer : Except Refusal Unit) : Bool :=
  match answer with
  | .ok () => false
  | .error r => r.problem = .notFound

/-- Goes on with a folder, given by its names last one first, and makes it and the folders above it
where they are missing. -/
def makeFolders (root : Text) : (reversed : List Text) → (next : Script) → Script
  | [], next => .ask (.makeFolder ⟨root, []⟩) fun answer => withFolder ⟨root, []⟩ answer next
  | part :: parts, next =>
    let path : FilePath := ⟨root, (part :: parts).reverse⟩
    .ask (.makeFolder path) fun answer =>
      if lacksParent answer then
        makeFolders root parts (.ask (.makeFolder path) fun answer => withFolder path answer next)
      else withFolder path answer next

/-- Writes a text to a file, and makes its folder where it is missing. -/
def writeText (path : FilePath) (s : Text) (next : Script) : Script :=
  withPath path.parent <|
  makeFolders path.root path.parent.parts.reverse <|
  withPath path <|
  demand (.writeFile path (Text.encode s)) fun _ => next

end Script

end GeneratedContent
