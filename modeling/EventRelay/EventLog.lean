import EventRelay.Calendar
import EventRelay.Config
import EventRelay.Files
import EventRelay.Text.Blank
import EventRelay.Text.Split

/-!
The event log: one line for every accepted event, in a file that is kept within a number of bytes
or of lines. What an append makes of the content is stated apart from the file that holds it, and
an append is two steps: the file is opened with the room that is made, and the line is written.
-/

namespace EventRelay

structure LogEntry where
  receivedAt : Int
  raw : String
  deriving DecidableEq, Repr

namespace LogEntry

def flatten (raw : String) : String :=
  String.ofList ((Text.trimList raw.toList).map fun c => if c = '\r' ∨ c = '\n' then ' ' else c)

def render (e : LogEntry) : String := s!"[{Calendar.render e.receivedAt}] {flatten e.raw}\n"

end LogEntry

structure EventLog where
  path : Path
  rotation : Rotation
  maxBytes : Nat
  maxLines : Nat
  deriving DecidableEq, Repr

namespace EventLog

/-- The content as it is when the file has been opened, and what is then written behind it. -/
structure Room where
  kept : Bytes
  added : Bytes
  deriving DecidableEq, Repr

def Room.content (r : Room) : Bytes := r.kept ++ r.added

def roomWithinBytes (maxBytes : Nat) (content line : Bytes) : Room :=
  ⟨if maxBytes ≤ content.length then [] else content, line⟩

def roomWithinLines (maxLines : Nat) (content line : String) : Room :=
  let old := Text.lines content
  if old.length < maxLines then ⟨.ofString content, .ofString line⟩
  else
    let recent := old.drop (old.length - (maxLines - 1))
    ⟨[], .ofString (String.join (recent.map (· ++ "\n")) ++ line)⟩

def ofConfig (c : LogConfig) : EventLog :=
  { path := c.path
    rotation := c.rotation
    maxBytes := c.maxBytes
    maxLines := max c.maxLines 1 }

def create (c : LogConfig) (fs : FileSystem) : FileSystem × Outcome EventLog :=
  match fs.makeParent c.path "create log directory" with
  | (fs, .error e) => (fs, .error e)
  | (fs, .ok ()) =>
    match fs.append c.path [] with
    | .error e => (fs, .error (e.onFile c.path "open event log"))
    | .ok fs => (fs, .ok (ofConfig c))

def failure (log : EventLog) (operation : String) (e : SystemError) : Failure :=
  .persistence log.path.text operation [e.message]

def room (log : EventLog) (line : String) (fs : FileSystem) : Outcome Room :=
  match log.rotation with
  | .size =>
    match fs.read log.path with
    | .ok content => .ok (roomWithinBytes log.maxBytes content (.ofString line))
    | .error .notFound | .error .isDirectory =>
      .ok (roomWithinBytes log.maxBytes [] (.ofString line))
    | .error e => .error (log.failure "stat" e)
  | .lines =>
    match fs.readText log.path with
    | .ok content => .ok (roomWithinLines log.maxLines content line)
    | .error .notFound => .ok (roomWithinLines log.maxLines "" line)
    | .error e => .error (log.failure "read" e)

structure Pending where
  location : Location
  added : Bytes
  deriving DecidableEq, Repr

def start (log : EventLog) (e : LogEntry) (fs : FileSystem) : Outcome (FileSystem × Pending) := do
  let r ← log.room e.render fs
  match fs.openForWriting log.path with
  | .error error => throw (log.failure "open" error)
  | .ok (location, _) => return (fs.put location (.file r.kept), ⟨location, r.added⟩)

def Pending.finish (p : Pending) (fs : FileSystem) : FileSystem :=
  match fs.at? p.location with
  | some (.file content) => fs.put p.location (.file (content ++ p.added))
  | _ => fs

/-- Makes room if the limit demands it and adds the entry; a failed append changes nothing. -/
def append (log : EventLog) (e : LogEntry) (fs : FileSystem) : Outcome FileSystem := do
  let (fs, pending) ← log.start e fs
  return pending.finish fs

end EventLog

end EventRelay
