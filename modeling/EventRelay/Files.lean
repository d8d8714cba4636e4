import EventRelay.Failure
import EventRelay.Location
import EventRelay.Path
import EventRelay.Text.Bytes

/-!
The files that the relay works on: a tree of directories and regular files, and the operations of
the operating system on it with their errors. Permissions and symbolic links are left out of it, and
a disk is never full.
-/

namespace EventRelay

inductive SystemError
  | notFound
  | permissionDenied
  | alreadyExists
  | notDirectory
  | isDirectory
  | nameTooLong
  | directoryNotEmpty
  | addressInUse
  | networkUnreachable
  | invalidText
  | zeroInName
  | zeroInArgument
  | argumentsTooLong
  deriving DecidableEq, Repr

def SystemError.message : SystemError → String
  | .notFound => "No such file or directory (os error 2)"
  | .argumentsTooLong => "Argument list too long (os error 7)"
  | .permissionDenied => "Permission denied (os error 13)"
  | .alreadyExists => "File exists (os error 17)"
  | .notDirectory => "Not a directory (os error 20)"
  | .isDirectory => "Is a directory (os error 21)"
  | .nameTooLong => "File name too long (os error 36)"
  | .directoryNotEmpty => "Directory not empty (os error 39)"
  | .addressInUse => "Address already in use (os error 98)"
  | .networkUnreachable => "Network is unreachable (os error 101)"
  | .invalidText => "stream did not contain valid UTF-8"
  | .zeroInName => "file name contained an unexpected NUL byte"
  | .zeroInArgument => "nul byte found in provided data"

def SystemError.onFile (e : SystemError) (path : Path) (operation : String) : Failure :=
  .file path.text operation [e.message]

abbrev SystemResult (α : Type) := Except SystemError α

inductive FileNode
  | file (content : Bytes)
  | directory
  deriving DecidableEq, Repr

structure FileSystem where
  at? : Location → Option FileNode
  workingDirectory : Location := .root

namespace FileSystem

def empty : FileSystem := { at? := fun _ => none }

def node? (fs : FileSystem) (l : Location) : Option FileNode :=
  if l = .root then some .directory else fs.at? l

def put (fs : FileSystem) (l : Location) (node : FileNode) : FileSystem :=
  { fs with at? := fun m => if m = l then some node else fs.at? m }

def erase (fs : FileSystem) (l : Location) : FileSystem :=
  { fs with at? := fun m => if m = l then none else fs.at? m }

def eraseTree (fs : FileSystem) (l : Location) : FileSystem :=
  { fs with at? := fun m => if m.isWithin l then none else fs.at? m }

def maxName : Nat := 255

/-- One more than the longest path, in bytes. -/
def pathLimit : Nat := 4096

def descend (fs : FileSystem) : Location → List String → SystemResult Location
  | l, [] => .ok l
  | l, name :: names =>
    if name = "." then fs.descend l names
    else if name = ".." then fs.descend l.parent names
    else if maxName < name.utf8ByteSize then .error .nameTooLong
    else match fs.node? (l.child name) with
      | some .directory => fs.descend (l.child name) names
      | some (.file _) => .error .notDirectory
      | none => .error .notFound

structure Target where
  directory : Location
  name : Option String
  slash : Bool
  deriving DecidableEq, Repr

def Target.location (t : Target) : Location :=
  match t.name with
  | some name => t.directory.child name
  | none => t.directory

def start (fs : FileSystem) (path : Path) : Location :=
  if path.isAbsolute then .root else fs.workingDirectory

def target (fs : FileSystem) (path : Path) : SystemResult Target := do
  if path.text.isEmpty then throw .notFound
  if path.text.toList.contains '\x00' then throw .zeroInName
  if pathLimit ≤ path.text.utf8ByteSize then throw .nameTooLong
  match path.names.getLast? with
  | none => return ⟨fs.start path, none, true⟩
  | some last =>
    if last = "." ∨ last = ".." then return ⟨← fs.descend (fs.start path) path.names, none, true⟩
    else
      return ⟨← fs.descend (fs.start path) path.names.dropLast, some last, path.text.endsWith "/"⟩

def look (fs : FileSystem) (t : Target) : SystemResult (Option FileNode) :=
  if t.name.any (maxName < ·.utf8ByteSize) then .error .nameTooLong
  else .ok (fs.node? t.location)

def find (fs : FileSystem) (path : Path) : SystemResult (Location × FileNode) := do
  let t ← fs.target path
  match ← fs.look t with
  | none => throw .notFound
  | some (.file content) =>
    if t.slash then throw .notDirectory else return (t.location, .file content)
  | some .directory => return (t.location, .directory)

def exists? (fs : FileSystem) (path : Path) : Bool := (fs.find path).toOption.isSome

def isDirectory (fs : FileSystem) (path : Path) : Bool :=
  match fs.find path with
  | .ok (_, .directory) => true
  | _ => false

def directory (fs : FileSystem) : Path := ⟨fs.workingDirectory.text⟩

def enter (fs : FileSystem) (path : Path) : FileSystem :=
  match fs.find path with
  | .ok (workingDirectory, .directory) => { fs with workingDirectory }
  | _ => fs

def read (fs : FileSystem) (path : Path) : SystemResult Bytes := do
  match ← fs.find path with
  | (_, .file content) => return content
  | (_, .directory) => throw .isDirectory

def readText (fs : FileSystem) (path : Path) : SystemResult String := do
  match (← fs.read path).toString? with
  | some s => return s
  | none => throw .invalidText

def openForWriting (fs : FileSystem) (path : Path) : SystemResult (Location × Option Bytes) := do
  let t ← fs.target path
  if t.slash then throw .isDirectory
  match ← fs.look t with
  | some .directory => throw .isDirectory
  | some (.file content) => return (t.location, some content)
  | none => return (t.location, none)

def write (fs : FileSystem) (path : Path) (content : Bytes) : SystemResult FileSystem := do
  let (l, _) ← fs.openForWriting path
  return fs.put l (.file content)

def append (fs : FileSystem) (path : Path) (content : Bytes) : SystemResult FileSystem := do
  let (l, old) ← fs.openForWriting path
  return fs.put l (.file (old.getD [] ++ content))

def removeFile (fs : FileSystem) (path : Path) : SystemResult FileSystem := do
  match ← fs.find path with
  | (l, .file _) => return fs.erase l
  | (_, .directory) => throw .isDirectory

def makeDirectory (fs : FileSystem) (path : Path) : SystemResult FileSystem := do
  let t ← fs.target path
  match ← fs.look t with
  | some _ => throw .alreadyExists
  | none => return fs.put t.location .directory

/--
Creates what is missing on the way down from a directory; what is created before a failure stays.
-/
def makeBelow (fs : FileSystem) : Location → List String → FileSystem × SystemResult Unit
  | _, [] => (fs, .ok ())
  | l, name :: names =>
    if name = "." then fs.makeBelow l names
    else if name = ".." then fs.makeBelow l.parent names
    else if maxName < name.utf8ByteSize then (fs, .error .nameTooLong)
    else match fs.node? (l.child name) with
      | some .directory => fs.makeBelow (l.child name) names
      | some (.file _) => (fs, .error .alreadyExists)
      | none => (fs.put (l.child name) .directory).makeBelow (l.child name) names

def makeDirectories (fs : FileSystem) (path : Path) : FileSystem × SystemResult Unit :=
  if path.text.isEmpty then (fs, .ok ())
  else
    match fs.makeDirectory path with
    | .ok fs => (fs, .ok ())
    | .error .notFound => fs.makeBelow (fs.start path) path.names
    | .error e => (fs, if fs.isDirectory path then .ok () else .error e)

def makeParent (fs : FileSystem) (path : Path) (operation : String) : FileSystem × Outcome Unit :=
  match path.parent? with
  | none => (fs, .ok ())
  | some parent =>
    if parent.text.isEmpty then (fs, .ok ())
    else
      let (fs, made) := fs.makeDirectories parent
      (fs, made.mapError (·.onFile parent operation))

end FileSystem

end EventRelay
