import GeneratedContent.File.Script
import GeneratedContent.OrderedMap

/-!
# File systems

A file system is a value: the files with what they hold, and the folders. A script is carried out
on it together with an input that it may read and the texts that it writes. Besides what the file system
says, requests may be refused for reasons that no file system shows, such as a lack of permission or of
space: a list of mishaps says which ones are, and how far they come.
-/

namespace GeneratedContent

/-- Files and folders by the names on the way to them from the root. -/
structure FileSystem where
  /-- The files. -/
  files : OrderedMap (List Text) (List UInt8) := .empty
  /-- The folders below the root. -/
  folders : List (List Text) := []
  /-- The current folder. -/
  current : List Text := []

namespace FileSystem

/-- Whether there is a folder at a location. -/
def isFolder (fs : FileSystem) (location : List Text) : Bool :=
  location.isEmpty || fs.folders.contains location

/-- Where a walk through folders ends that begins in one of them. Only its last name may be
missing. -/
def walk (fs : FileSystem) (location : List Text) : List Text → Except FileProblem (List Text)
  | [] => .ok location
  | part :: parts =>
    if fs.isFolder location then
      walk fs (if part = "..".toList then location.dropLast else location ++ [part]) parts
    else if fs.files.contains location then .error .notFolder
    else .error .notFound

/-- The location that a path leads to. -/
def locate (fs : FileSystem) (path : FilePath) : Except FileProblem (List Text) :=
  fs.walk (if path.root = [] then fs.current else []) path.parts

/-- What a file holds. -/
def read (fs : FileSystem) (path : FilePath) : Except FileProblem (List UInt8) :=
  match fs.locate path with
  | .error p => .error p
  | .ok location =>
    if fs.isFolder location then .error .isFolder
    else
      match fs.files.get? location with
      | some content => .ok content
      | none => .error .notFound

/-- The file system after a file has been written as a whole. -/
def write (fs : FileSystem) (path : FilePath) (content : List UInt8) :
    Except FileProblem FileSystem :=
  match fs.locate path with
  | .error p => .error p
  | .ok location =>
    if fs.isFolder location then .error .isFolder
    else .ok { fs with files := fs.files.insert location content }

/-- The file system after a folder has been made. -/
def makeFolder (fs : FileSystem) (path : FilePath) : Except FileProblem FileSystem :=
  match fs.locate path with
  | .error p => .error p
  | .ok location =>
    if fs.isFolder location || fs.files.contains location then .error .alreadyExists
    else .ok { fs with folders := location :: fs.folders }

/-- Whether a path leads to a folder. -/
def hasFolder (fs : FileSystem) (path : FilePath) : Bool :=
  match fs.locate path with
  | .error _ => false
  | .ok location => fs.isFolder location

/-- The file system with folders all the way to a location. -/
def withFolders (fs : FileSystem) (location : List Text) : FileSystem :=
  { fs with
    folders := (List.range location.length).map (fun n => location.take (n + 1)) ++ fs.folders }

end FileSystem

/-- What a script works on. -/
structure World where
  /-- The files and folders. -/
  files : FileSystem
  /-- The standard input. -/
  input : List UInt8 := []
  /-- What has been written to the standard output. -/
  output : Text := []
  /-- The lines that have been written to the log. -/
  lines : List Text := []
  /-- The mishaps of the requests to come, one after the other. Behind the end there are none. -/
  mishaps : List (Option Refusal) := []

/-- How a script ends. -/
inductive Ending where
  /-- With a status. -/
  | status (n : Nat)
  /-- With a fault. -/
  | fault (f : Fault)
deriving DecidableEq

namespace World

/-- The answer to a request that changes the file system or is refused, and the world after it. -/
def after (w : World) : Except FileProblem FileSystem → Except FileProblem Unit × World
  | .error p => (.error p, w)
  | .ok fs => (.ok (), { w with files := fs })

/-- The answer to a request without a mishap, and the world after it. -/
def grant (w : World) : (request : Request) → Except FileProblem request.Answer × World
  | .readFile path => (w.files.read path, w)
  | .readInput => (.ok w.input, w)
  | .makeFolder path => w.after (w.files.makeFolder path)
  | .askFolder path => (.ok (w.files.hasFolder path), w)
  | .writeFile path content => w.after (w.files.write path content)
  | .print text => (.ok (), { w with output := w.output ++ text })

/-- The world after a request that is broken off. A file that was being written holds a front of the
content, and nothing of what it held before. -/
def breakOff (w : World) (reached : Nat) : Request → World
  | .writeFile path content => (w.after (w.files.write path (content.take reached))).2
  | .print text => { w with output := w.output ++ text.take reached }
  | _ => w

/-- The world with the next mishap behind it. -/
def onward (w : World) : World := { w with mishaps := w.mishaps.tail }

/-- The answer to a request, and the world after it. -/
def answer (w : World) (request : Request) : Except Refusal request.Answer × World :=
  match w.mishaps.head?.join with
  | none =>
    ((w.onward.grant request).1.mapError fun p => { problem := p }, (w.onward.grant request).2)
  | some r =>
    match r.reached with
    | none => (.error r, w.onward)
    | some reached => (.error r, w.onward.breakOff reached request)

end World

/-- Carries out a script. -/
def Script.run : Script → World → Ending × World
  | .done status, w => (.status status, w)
  | .stop fault, w => (.fault fault, w)
  | .ask request next, w => (next (w.answer request).1).run (w.answer request).2
  | .log line next, w => next.run { w with lines := w.lines ++ [line] }

end GeneratedContent
