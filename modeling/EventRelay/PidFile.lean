import EventRelay.Files
import EventRelay.Text.Blank
import EventRelay.Text.Number

/-!
The file that names the running relay. It keeps a second relay from starting; a file that names no
live process does not. Looking for a running relay and claiming the file take several steps, between
which other processes may act.
-/

namespace EventRelay

structure Processes where
  self : Nat
  present : Nat → Bool

namespace Processes

def maxPid : Nat := Text.maxSigned32

def isRunning (ps : Processes) (pid : Nat) : Bool :=
  0 < pid && pid ≤ maxPid && ps.present pid

end Processes

structure PidFile where
  path : Path
  pid : Nat
  deriving DecidableEq, Repr

namespace PidFile

def named? (content : String) : Option Nat := Text.parseNat? Text.max32 (Text.trim content)

def text (pid : Nat) : String := s!"{pid}\n"

def read (fs : FileSystem) (path : Path) : Outcome (Option Nat) :=
  match fs.readText path with
  | .ok content => .ok (named? content)
  | .error .notFound => .ok none
  | .error e => .error (e.onFile path "read pid file")

inductive Lookup
  | looking
  | reading
  | judging (named : Option Nat)
  | removing
  | found (result : Outcome (Option Nat))

def blocks (ps : Processes) (pid : Nat) : Bool := pid != ps.self && ps.isRunning pid

def Lookup.step (ps : Processes) (path : Path) (fs : FileSystem) : Lookup → FileSystem × Lookup
  | .looking => (fs, if fs.exists? path then .reading else .found (.ok none))
  | .reading =>
    match read fs path with
    | .ok named => (fs, .judging named)
    | .error e => (fs, .found (.error e))
  | .judging (some pid) =>
    (fs, if blocks ps pid then .found (.ok (some pid)) else .removing)
  | .judging none => (fs, .removing)
  | .removing =>
    match fs.removeFile path with
    | .ok fs => (fs, .found (.ok none))
    | .error _ => (fs, .found (.ok none))
  | .found result => (fs, .found result)

def Lookup.result : Lookup → Outcome (Option Nat)
  | .found result => result
  | _ => .ok none

def Lookup.run (ps : Processes) (path : Path) : (steps : Nat) → FileSystem × Lookup →
    FileSystem × Lookup
  | 0, s => s
  | n + 1, s => Lookup.run ps path n (Lookup.step ps path s.1 s.2)

def Lookup.length : Nat := 4

def runningPid (fs : FileSystem) (ps : Processes) (path : Path) :
    FileSystem × Outcome (Option Nat) :=
  let (fs, lookup) := Lookup.run ps path Lookup.length (fs, .looking)
  (fs, lookup.result)

inductive Claim
  | checking (l : Lookup)
  | preparing
  | recording
  | settled (result : Outcome PidFile)

def Claim.step (ps : Processes) (path : Path) (fs : FileSystem) : Claim → FileSystem × Claim
  | .checking (.found (.error e)) => (fs, .settled (.error e))
  | .checking (.found (.ok (some pid))) => (fs, .settled (.error (.alreadyRunning pid)))
  | .checking (.found (.ok none)) => (fs, .preparing)
  | .checking l =>
    let (fs, l) := l.step ps path fs
    (fs, .checking l)
  | .preparing =>
    match fs.makeParent path "create pid file directory" with
    | (fs, .error e) => (fs, .settled (.error e))
    | (fs, .ok ()) => (fs, .recording)
  | .recording =>
    match fs.write path (.ofString (text ps.self)) with
    | .error e => (fs, .settled (.error (e.onFile path "write pid file")))
    | .ok fs => (fs, .settled (.ok ⟨path, ps.self⟩))
  | .settled result => (fs, .settled result)

def Claim.run (ps : Processes) (path : Path) : (steps : Nat) → FileSystem × Claim →
    FileSystem × Claim
  | 0, s => s
  | n + 1, s => Claim.run ps path n (Claim.step ps path s.1 s.2)

def Claim.length : Nat := Lookup.length + 3

def acquire (fs : FileSystem) (ps : Processes) (path : Path) : FileSystem × Outcome PidFile :=
  match Claim.run ps path Claim.length (fs, .checking .looking) with
  | (fs, .settled result) => (fs, result)
  | (fs, _) => (fs, .ok ⟨path, ps.self⟩)

inductive Release
  | reading
  | checking
  | removing
  | settled (result : Outcome Unit)

def Release.step (p : PidFile) (fs : FileSystem) : Release → FileSystem × Release
  | .reading =>
    match read fs p.path with
    | .error e => (fs, .settled (.error e))
    | .ok named => (fs, if named.any (· != p.pid) then .settled (.ok ()) else .checking)
  | .checking => (fs, if fs.exists? p.path then .removing else .settled (.ok ()))
  | .removing =>
    match fs.removeFile p.path with
    | .ok fs => (fs, .settled (.ok ()))
    | .error e => (fs, .settled (.error (e.onFile p.path "remove pid file")))
  | .settled result => (fs, .settled result)

def Release.run (p : PidFile) : (steps : Nat) → FileSystem × Release → FileSystem × Release
  | 0, s => s
  | n + 1, s => Release.run p n (Release.step p s.1 s.2)

def release (p : PidFile) (fs : FileSystem) : FileSystem × Outcome Unit :=
  match read fs p.path with
  | .error e => (fs, .error e)
  | .ok named =>
    if named.any (· != p.pid) ∨ ¬ fs.exists? p.path then (fs, .ok ())
    else
      match fs.removeFile p.path with
      | .ok fs => (fs, .ok ())
      | .error e => (fs, .error (e.onFile p.path "remove pid file"))

end PidFile

end EventRelay
