import EventRelay.EventLog

namespace EventRelay.EventLog

/-- Calls to the operating system. What one of them has changed stays changed when a later one
fails. -/
abbrev Calls (α : Type) := ExceptT Failure (StateM FileSystem) α

def Calls.on {α : Type} (calls : Calls α) (fs : FileSystem) : Outcome α × FileSystem :=
  (ExceptT.run calls).run fs

def asking {α : Type} (look : FileSystem → SystemResult α) : Calls (SystemResult α) :=
  fun fs => (.ok (look fs), fs)

def opening (log : EventLog) (operation : String) (truncate : Bool) : Calls Location :=
  fun fs => match fs.openForWriting log.path with
    | .error e => (.error (log.failure operation e), fs)
    | .ok (l, old) => (.ok l, fs.put l (.file (if truncate then [] else old.getD [])))

def writing (l : Location) (added : Bytes) : Calls Unit :=
  fun fs => (.ok (), Pending.finish ⟨l, added⟩ fs)

def adding (log : EventLog) (operation : String) (truncate : Bool) (added : Bytes) :
    Calls Unit := do
  let l ← log.opening operation truncate
  writing l added

/-- The file is not read but asked for its size, and a directory has some size, too. -/
def addingWithinBytes (log : EventLog) (directorySize : Nat) (line : Bytes) : Calls Unit := do
  match ← asking (·.find log.path) with
  | .ok (_, .file content) => log.adding "open" (log.maxBytes ≤ content.length) line
  | .ok (_, .directory) => log.adding "open" (log.maxBytes ≤ directorySize) line
  | .error .notFound => log.adding "open" (log.maxBytes ≤ 0) line
  | .error e => throw (log.failure "stat" e)

def addingBehind (log : EventLog) (content line : String) : Calls Unit :=
  let old := Text.lines content
  if old.length < log.maxLines then log.adding "open" false (.ofString line)
  else
    let recent := old.drop (old.length - (log.maxLines - 1))
    log.adding "rewrite rotated log" true
      (.ofString (String.join (recent.map (· ++ "\n")) ++ line))

def addingWithinLines (log : EventLog) (line : String) : Calls Unit := do
  match ← asking (·.readText log.path) with
  | .ok content => log.addingBehind content line
  | .error .notFound => log.addingBehind "" line
  | .error e => throw (log.failure "read" e)

def calls (log : EventLog) (directorySize : Nat) (e : LogEntry) : Calls Unit :=
  match log.rotation with
  | .size => log.addingWithinBytes directorySize (.ofString e.render)
  | .lines => log.addingWithinLines e.render

end EventRelay.EventLog
