import EventRelay.Proofs.EventLog.Rotation

namespace EventRelay

theorem Bytes.toString?_nil : Bytes.toString? [] = some "" := by
  rw [← Bytes.ofString_empty]
  exact Bytes.toString?_ofString ""

namespace EventLog

variable {log : EventLog} {fs : FileSystem} {l : Location}

def roomIn (log : EventLog) (content : Bytes) (line : String) : Outcome Room :=
  match log.rotation with
  | .size => .ok (roomWithinBytes log.maxBytes content (.ofString line))
  | .lines =>
    match content.toString? with
    | some text => .ok (roomWithinLines log.maxLines text line)
    | none => .error (log.failure "read" .invalidText)

theorem room_of_openForWriting {old : Option Bytes}
    (h : fs.openForWriting log.path = .ok (l, old)) (line : String) :
    log.room line fs = log.roomIn (old.getD []) line := by
  have read := FileSystem.read_of_openForWriting h
  unfold room roomIn
  cases log.rotation with
  | size =>
    cases old with
    | some content => simp only [read]; rfl
    | none => simp only [read]; rfl
  | lines =>
    cases old with
    | some content =>
      rw [FileSystem.readText_of_read read, Option.getD_some]
      cases content.toString? <;> rfl
    | none =>
      have missing : fs.readText log.path = .error .notFound := by
        rw [FileSystem.readText, read]
        rfl
      simp only [missing, Option.getD_none, Bytes.toString?_nil]

theorem start_of_openForWriting {old : Option Bytes}
    (h : fs.openForWriting log.path = .ok (l, old)) (e : LogEntry) :
    log.start e fs = (log.roomIn (old.getD []) e.render).map fun r =>
      (fs.put l (.file r.kept), ⟨l, r.added⟩) := by
  unfold start
  rw [room_of_openForWriting h, h]
  cases log.roomIn (old.getD []) e.render <;> rfl

def Alike (log : EventLog) (l : Location) (fs fs' : FileSystem) : Prop :=
  ∃ content, fs.find log.path = .ok (l, .file content) ∧
    fs'.find log.path = .ok (l, .file content)

theorem Alike.read {fs' : FileSystem} (h : log.Alike l fs fs') :
    fs.read log.path = fs'.read log.path := by
  obtain ⟨content, found, found'⟩ := h
  rw [FileSystem.read_of_find found, FileSystem.read_of_find found']

theorem Alike.put {fs' : FileSystem} (h : log.Alike l fs fs') (content : Bytes) :
    log.Alike l (fs.put l (.file content)) (fs'.put l (.file content)) := by
  obtain ⟨_, found, found'⟩ := h
  exact ⟨content, FileSystem.find_put found content, FileSystem.find_put found' content⟩

theorem start_of_find_file {content : Bytes} (h : fs.find log.path = .ok (l, .file content))
    (e : LogEntry) :
    log.start e fs = (log.roomIn content e.render).map fun r =>
      (fs.put l (.file r.kept), ⟨l, r.added⟩) :=
  start_of_openForWriting (FileSystem.openForWriting_of_find h) e

end EventLog

namespace FileSystem

def KeepsOthers (l : Location) (fs fs' : FileSystem) : Prop :=
  ∀ path k content, k ≠ l → fs.find path = .ok (k, .file content) →
    fs'.find path = .ok (k, .file content)

theorem KeepsOthers.refl (l : Location) (fs : FileSystem) : KeepsOthers l fs fs :=
  fun _ _ _ _ h => h

theorem KeepsOthers.trans {l : Location} {a b c : FileSystem} (h : KeepsOthers l a b)
    (h' : KeepsOthers l b c) : KeepsOthers l a c :=
  fun path k content ne found => h' path k content ne (h path k content ne found)

theorem KeepsOthers.put {l : Location} {fs : FileSystem} {path : Path} {old : Bytes}
    (found : fs.find path = .ok (l, .file old)) (node : FileNode) :
    KeepsOthers l fs (fs.put l node) :=
  fun _ _ _ ne other => find_put_of_ne other ne (not_directory_of_find found) node

theorem find_append_nil {fs fs' : FileSystem} {path other : Path} {l : Location} {content : Bytes}
    (found : fs.find path = .ok (l, .file content)) (appended : fs.append other [] = .ok fs') :
    fs'.find path = .ok (l, .file content) := by
  unfold FileSystem.append at appended
  rcases ho : fs.openForWriting other with e | ⟨k, old⟩ <;> rw [ho] at appended
  · cases appended
  · cases appended
    by_cases same : l = k
    · subst same
      obtain ⟨_, _, _, _, there, _⟩ := openForWriting_eq_ok_iff.mp ho
      obtain rfl : old = some content := by
        rw [node?_of_find found] at there
        cases old <;> cases there
        rfl
      rw [Option.getD_some, List.append_nil]
      exact find_put found content
    · exact find_put_of_ne found same (not_directory_of_openForWriting ho) _

end FileSystem

theorem EventLog.find_create {c : LogConfig} {fs : FileSystem} {path : Path} {l : Location}
    {content : Bytes} (found : fs.find path = .ok (l, .file content)) :
    (create c fs).1.find path = .ok (l, .file content) := by
  have grown := fs.grows_makeParent c.path "create log directory"
  unfold create
  rcases hm : fs.makeParent c.path "create log directory" with ⟨made, e | u⟩ <;> rw [hm] at grown
  · exact grown.find_file found
  · simp only
    split
    · exact grown.find_file found
    · next appended => exact FileSystem.find_append_nil (grown.find_file found) appended

end EventRelay
