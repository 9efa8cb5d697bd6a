import NamespaceLifecycle.Text.Basic
import NamespaceLifecycle.Text.Utf8

/-!
# Workspaces

The files that a command sees: a tree of directories and files, and the directory from which paths
are read. Following a path fails where it leads through a file or through nothing. Files are read
as texts and written whole; no operation removes anything.
-/

namespace NamespaceLifecycle

abbrev Location := List String

inductive Entry where
  | file (content : List UInt8)
  | directory
  deriving DecidableEq, Repr

/-- The files that a command sees. -/
structure Workspace where
  /-- The directory from which paths are read. -/
  current : Location
  entries : List (Location × Entry)
  deriving DecidableEq, Repr

inductive FileError where
  | notFound
  | exists
  | notDirectory
  | isDirectory
  | notText
  deriving DecidableEq, Repr

def FileError.message : FileError → String
  | notFound => "No such file or directory (os error 2)"
  | .exists => "File exists (os error 17)"
  | notDirectory => "Not a directory (os error 20)"
  | isDirectory => "Is a directory (os error 21)"
  | notText => "stream did not contain valid UTF-8"

namespace Workspace

/-- What stands at a place. The way to the current directory and to every entry is made of
directories. -/
def find? (w : Workspace) (place : Location) : Option Entry :=
  match w.entries.find? fun entry => entry.1 = place with
  | some (_, entry) => some entry
  | none =>
    if place.isPrefixOf w.current || w.entries.any fun entry => place.isPrefixOf entry.1 then
      some .directory
    else none

def put (w : Workspace) (place : Location) (entry : Entry) : Workspace :=
  if w.entries.any fun other => other.1 = place then
    { w with entries := w.entries.map fun other =>
        if other.1 = place then (place, entry) else other }
  else { w with entries := w.entries ++ [(place, entry)] }

/-- The names that a path is made of, and whether it starts at the top. -/
def parts (path : String) : Bool × List String :=
  let chars := path.toList
  (chars.head? == some '/', (Text.splitAt '/' chars).map String.ofList)

def below (directory name : String) : String :=
  if directory = "" ∨ directory.toList.getLast? = some '/' then directory ++ name
  else directory ++ "/" ++ name

/-- Where a name leads from a place. -/
def step (place : Location) (name : String) : Location :=
  if name = "" ∨ name = "." then place
  else if name = ".." then place.dropLast
  else place ++ [name]

def follow (w : Workspace) (place : Location) : List String → Except FileError Location
  | [] => .ok place
  | name :: rest =>
    if rest.isEmpty then .ok (step place name)
    else
      match w.find? (step place name) with
      | some .directory => follow w (step place name) rest
      | some (.file _) => .error .notDirectory
      | none => .error .notFound

/-- The place that a path leads to. The path without any name leads nowhere. -/
def locate (w : Workspace) (path : String) : Except FileError Location :=
  if path = "" then .error .notFound
  else
    match parts path with
    | (fromTop, names) => follow w (if fromTop then [] else w.current) names

def exists? (w : Workspace) (path : String) : Bool :=
  match w.locate path with
  | .ok place => (w.find? place).isSome
  | .error _ => false

def read (w : Workspace) (path : String) : Except FileError String := do
  let place ← w.locate path
  match w.find? place with
  | none => .error .notFound
  | some .directory => .error .isDirectory
  | some (.file content) =>
    match Text.Utf8.text? content with
    | some text => .ok text
    | none => .error .notText

/-- The workspace after the file that a path leads to was opened for writing; the new content is
made from the old one, or from nothing. A path with a slash at its end can only be a directory. -/
def writeWith (w : Workspace) (path : String) (content : List UInt8 → List UInt8) :
    Except FileError Workspace := do
  let place ← w.locate (Text.withoutTrailing '/' path)
  if path.toList.getLast? = some '/' then .error .isDirectory
  else
    match w.find? place with
    | some .directory => .error .isDirectory
    | some (.file old) => .ok (w.put place (.file (content old)))
    | none => .ok (w.put place (.file (content [])))

def write (w : Workspace) (path text : String) : Except FileError Workspace :=
  w.writeWith path fun _ => Text.Utf8.bytes text

def append (w : Workspace) (path text : String) : Except FileError Workspace :=
  w.writeWith path fun old => old ++ Text.Utf8.bytes text

/-- Makes the directories on the way along names that are not there. -/
def makeWay (w : Workspace) (place : Location) : List String → Except FileError Workspace
  | [] => .ok w
  | name :: rest =>
    match w.find? (step place name) with
    | some .directory => makeWay w (step place name) rest
    | some (.file _) =>
      if rest.isEmpty then .error .exists else .error .notDirectory
    | none => makeWay (w.put (step place name) .directory) (step place name) rest

/-- The workspace with all directories on the way to a path, and the path itself one. -/
def makeDirectory (w : Workspace) (path : String) : Except FileError Workspace :=
  match parts path with
  | (fromTop, names) => makeWay w (if fromTop then [] else w.current) names

end Workspace

end NamespaceLifecycle
