import EventRelay.Proofs.EventLog.Content
import EventRelay.Proofs.Files.Parent

namespace EventRelay

theorem FileSystem.put_put (fs : FileSystem) (l : Location) (a b : FileNode) :
    (fs.put l a).put l b = fs.put l b := by
  unfold FileSystem.put
  congr 1
  funext m
  simp only
  split <;> rfl

namespace EventLog

variable {log : EventLog} {fs fs' : FileSystem} {l : Location}

theorem room_of_find {content : String}
    (h : fs.find log.path = .ok (l, .file (.ofString content))) (line : String) :
    log.room line fs = .ok (log.roomFor content line) := by
  unfold room roomFor
  cases log.rotation with
  | size => simp only [FileSystem.read_of_find h]
  | lines => simp only [FileSystem.readText_of_find h]

theorem start_of_find {content : String}
    (h : fs.find log.path = .ok (l, .file (.ofString content))) (e : LogEntry) :
    log.start e fs = .ok (fs.put l (.file (log.roomFor content e.render).kept),
      ⟨l, (log.roomFor content e.render).added⟩) := by
  unfold start
  rw [room_of_find h, FileSystem.openForWriting_of_find h]
  rfl

theorem Pending.finish_of_at? {p : Pending} {content : Bytes}
    (h : fs.at? p.location = some (.file content)) :
    p.finish fs = fs.put p.location (.file (content ++ p.added)) := by
  unfold finish
  rw [h]

structure Begun (log : EventLog) (fs : FileSystem) (l : Location) (held : List LogEntry)
    (e : LogEntry) (p : Pending) : Prop where
  pending : p = ⟨l, (log.roomFor (record held) e.render).added⟩
  found : fs.find log.path = .ok (l, .file (log.roomFor (record held) e.render).kept)

theorem begun_of_find {held : List LogEntry}
    (h : fs.find log.path = .ok (l, .file (.ofString (record held)))) (e : LogEntry) :
    ∃ kept p, log.start e fs = .ok (fs.put l (.file kept), p) ∧
      log.Begun (fs.put l (.file kept)) l held e p :=
  ⟨_, _, start_of_find h e, rfl, FileSystem.find_put h _⟩

theorem Begun.finish {held : List LogEntry} {e : LogEntry} {p : Pending}
    (h : log.Begun fs l held e p) :
    p.finish fs = fs.put l (.file (.ofString (record (log.retain held e)))) := by
  obtain ⟨rfl, found⟩ := h
  rw [Pending.finish_of_at? (FileSystem.at?_of_find found), ← content_roomFor]
  rfl

theorem append_of_find {held : List LogEntry}
    (h : fs.find log.path = .ok (l, .file (.ofString (record held)))) (e : LogEntry) :
    log.append e fs = .ok (fs.put l (.file (.ofString (record (log.retain held e))))) := by
  obtain ⟨kept, p, start, begun⟩ := begun_of_find h e
  unfold append
  rw [start]
  change Except.ok (p.finish _) = _
  rw [begun.finish, FileSystem.put_put]

def Holds (log : EventLog) (fs : FileSystem) (held : List LogEntry) : Prop :=
  ∃ l, fs.find log.path = .ok (l, .file (.ofString (record held)))

theorem Holds.read {held : List LogEntry} (h : log.Holds fs held) :
    fs.read log.path = .ok (.ofString (record held)) := by
  obtain ⟨l, hl⟩ := h
  exact FileSystem.read_of_find hl

theorem Holds.append {held : List LogEntry} (h : log.Holds fs held) (e : LogEntry) :
    ∃ fs', log.append e fs = .ok fs' ∧ log.Holds fs' (log.retain held e) := by
  obtain ⟨l, hl⟩ := h
  exact ⟨_, append_of_find hl e, l, FileSystem.find_put hl _⟩

/-- Before the log was opened there was nothing, or an empty file, where its path leads. -/
def OpenedFresh (c : LogConfig) (before after : FileSystem) : Prop :=
  ∀ l node, after.find c.path = .ok (l, node) →
    before.at? l = none ∨ before.at? l = some (.file [])

theorem create_ok {c : LogConfig} (opened : create c fs = (fs', .ok log)) :
    log = ofConfig c ∧ ∃ made l old, FileSystem.Grows fs made ∧
      fs.makeParent c.path "create log directory" = (made, .ok ()) ∧
      made.openForWriting c.path = .ok (l, old) ∧ fs' = made.put l (.file (old.getD [])) := by
  unfold create at opened
  rcases hp : fs.makeParent c.path "create log directory" with ⟨made, e | u⟩ <;> rw [hp] at opened
  · cases opened
  · have grown := fs.grows_makeParent c.path "create log directory"
    rw [hp] at grown
    simp only at opened
    unfold FileSystem.append at opened
    rcases ho : made.openForWriting c.path with e | ⟨l, old⟩ <;> rw [ho] at opened
    · cases opened
    · cases opened
      refine ⟨rfl, made, l, old, grown, rfl, ho, ?_⟩
      rw [List.append_nil]

theorem create_of_opens {c : LogConfig} {made : FileSystem} {old : Option Bytes}
    (prepared : fs.makeParent c.path "create log directory" = (made, .ok ()))
    (opens : made.openForWriting c.path = .ok (l, old)) :
    create c fs = (made.put l (.file (old.getD [])), .ok (ofConfig c)) := by
  have appended : made.append c.path [] = .ok (made.put l (.file (old.getD []))) := by
    unfold FileSystem.append
    rw [opens]
    change Except.ok (made.put l (.file (_ ++ []))) = _
    rw [List.append_nil]
  unfold create
  rw [prepared]
  simp only [appended]

theorem holds_nil_of_create {c : LogConfig} (opened : create c fs = (fs', .ok log))
    (fresh : OpenedFresh c fs fs') : log.Holds fs' [] := by
  obtain ⟨rfl, made, l, old, grown, -, ho, rfl⟩ := create_ok opened
  have found := FileSystem.find_put_of_openForWriting ho (old.getD [])
  -- Making directories made no file, so what was opened was missing or empty before.
  have empty : old.getD [] = [] := by
    cases old with
    | none => rfl
    | some content =>
      obtain ⟨t, -, -, -, hn, -⟩ := FileSystem.openForWriting_eq_ok_iff.mp ho
      have root : l ≠ .root := FileSystem.ne_root_of_node? (by rw [hn]; simp)
      rw [FileSystem.node?_of_ne_root root] at hn
      rcases fresh l _ found with none | some
      · rw [grown.at?_of_file hn] at none
        cases none
      · rw [grown.at?_of_file hn] at some
        cases some
        rfl
  rw [empty] at found ⊢
  exact ⟨l, found.trans (by rw [record_nil, Bytes.ofString_empty])⟩

structure Ready (c : LogConfig) (log : EventLog) (fs : FileSystem) (held : List LogEntry) :
    Prop where
  config : log = ofConfig c
  tree : fs.IsTree
  parent : fs.HasParent c.path
  holds : log.Holds fs held

theorem ready_of_create {c : LogConfig} (tree : fs.IsTree)
    (opened : create c fs = (fs', .ok log)) (fresh : OpenedFresh c fs fs') :
    Ready c log fs' [] := by
  have holds := holds_nil_of_create opened fresh
  obtain ⟨config, made, l, old, -, hp, ho, rfl⟩ := create_ok opened
  obtain ⟨tree', parent⟩ := FileSystem.makeParent_ok tree hp
  have keeps := FileSystem.KeepsDirectories.put
    (FileSystem.not_directory_of_openForWriting ho) (.file (old.getD []))
  exact ⟨config, tree'.put_of_openForWriting ho _, keeps.hasParent parent, holds⟩

theorem Ready.append {c : LogConfig} {held : List LogEntry} (h : Ready c log fs held)
    (e : LogEntry) :
    ∃ fs', log.append e fs = .ok fs' ∧ Ready c log fs' (log.retain held e) := by
  obtain ⟨config, tree, parent, l, hl⟩ := h
  have keeps := FileSystem.KeepsDirectories.put (FileSystem.not_directory_of_find hl)
    (.file (.ofString (record (log.retain held e))))
  exact ⟨_, append_of_find hl e, config,
    tree.put_of_openForWriting (FileSystem.openForWriting_of_find hl) _, keeps.hasParent parent,
    l, FileSystem.find_put hl _⟩

theorem Ready.create {c : LogConfig} {held : List LogEntry} (h : Ready c log fs held) :
    ∃ fs', EventLog.create c fs = (fs', .ok log) ∧ Ready c log fs' held := by
  obtain ⟨rfl, tree, parent, l, hl⟩ := h
  have ho : fs.openForWriting c.path = _ := FileSystem.openForWriting_of_find hl
  have keeps := FileSystem.KeepsDirectories.put (FileSystem.not_directory_of_find hl)
    (.file (.ofString (record held)))
  exact ⟨_, create_of_opens (FileSystem.makeParent_of_hasParent parent _) ho, rfl,
    tree.put_of_openForWriting ho _, keeps.hasParent parent, l, FileSystem.find_put hl _⟩

inductive Use
  | append (e : LogEntry)
  | reopen

def Use.entryOf? : Use → Option LogEntry
  | .append e => some e
  | .reopen => none

def added (uses : List Use) : List LogEntry := uses.filterMap Use.entryOf?

def use (c : LogConfig) : EventLog × FileSystem → Use → Outcome (EventLog × FileSystem)
  | (log, fs), .append e => (log.append e fs).map fun fs => (log, fs)
  | (_, fs), .reopen =>
    match create c fs with
    | (fs, .ok log) => .ok (log, fs)
    | (_, .error f) => .error f

/-- A log in use; the first failure ends it. -/
def session (c : LogConfig) (s : EventLog × FileSystem) (uses : List Use) :
    Outcome (EventLog × FileSystem) :=
  uses.foldlM (use c) s

theorem Ready.use {c : LogConfig} {held : List LogEntry} (h : Ready c log fs held) (u : Use) :
    ∃ fs', EventLog.use c (log, fs) u = .ok (log, fs') ∧
      Ready c log fs' (u.entryOf?.toList.foldl log.retain held) := by
  cases u with
  | append e =>
    obtain ⟨fs', ha, ready⟩ := h.append e
    exact ⟨fs', by rw [EventLog.use, ha]; rfl, ready⟩
  | reopen =>
    obtain ⟨fs', hc, ready⟩ := h.create
    exact ⟨fs', by rw [EventLog.use, hc], ready⟩

theorem Ready.session {c : LogConfig} {held : List LogEntry} (h : Ready c log fs held)
    (uses : List Use) :
    ∃ fs', EventLog.session c (log, fs) uses = .ok (log, fs') ∧
      Ready c log fs' ((added uses).foldl log.retain held) := by
  induction uses generalizing fs held with
  | nil => exact ⟨fs, rfl, h⟩
  | cons u uses ih =>
    obtain ⟨fs', hu, ready⟩ := h.use u
    obtain ⟨fs'', hs, ready'⟩ := ih ready
    refine ⟨fs'', ?_, ?_⟩
    · rw [EventLog.session, List.foldlM_cons, hu]
      exact hs
    · rw [← List.foldl_append] at ready'
      cases u <;> exact ready'

theorem maxLines_pos (c : LogConfig) : 0 < (ofConfig c).maxLines := by
  change 0 < max c.maxLines 1
  omega

theorem openedFresh_empty (c : LogConfig) (after : FileSystem) : OpenedFresh c .empty after :=
  fun _ _ _ => .inl rfl

theorem create_empty (c : LogConfig) {name : String} (h : FileSystem.IsName c.path name)
    (vacant : FileSystem.empty.node? ((FileSystem.empty.start c.path).child name) = none) :
    ∃ opened, create c .empty = (opened, .ok (ofConfig c)) :=
  ⟨_, create_of_opens (FileSystem.makeParent_of_hasParent h.hasParent _) (h.openForWriting vacant)⟩

/-- Whatever is done with a log that was opened on nothing, all of it succeeds, and the file holds
the latest entries, each of them on a line of its own and as many as there is room for. -/
theorem session_keeps_latest {c : LogConfig} {log : EventLog} {fs fs' : FileSystem}
    (lines : c.rotation = .lines) (tree : fs.IsTree) (opened : create c fs = (fs', .ok log))
    (fresh : OpenedFresh c fs fs') (uses : List Use) :
    ∃ after, session c (log, fs') uses = .ok (log, after) ∧
      after.read c.path = .ok (.ofString (record ((added uses).drop
        ((added uses).length - min (added uses).length (max c.maxLines 1))))) ∧
      ∀ e ∈ added uses, Text.IsLine e.render := by
  obtain ⟨after, ran, rfl, -, -, holds⟩ := (ready_of_create tree opened fresh).session uses
  refine ⟨after, ran, ?_, fun e _ => e.isLine_render⟩
  have latest := (ofConfig c).kept_lines lines (maxLines_pos c) (added uses)
  have count : (added uses).length - min (added uses).length (max c.maxLines 1) =
      (added uses).length - (ofConfig c).maxLines := by
    change _ = (added uses).length - max c.maxLines 1
    omega
  rw [count, ← latest]
  exact holds.read

theorem session_keeps_latest_of_two :
    ∃ opened after,
      create ⟨⟨"/log"⟩, .lines, 0, 0⟩ .empty = (opened, .ok ⟨⟨"/log"⟩, .lines, 0, 1⟩) ∧
      session ⟨⟨"/log"⟩, .lines, 0, 0⟩ (⟨⟨"/log"⟩, .lines, 0, 1⟩, opened)
        [.append ⟨0, "a\r\nb"⟩, .reopen, .append ⟨60, " c\n"⟩] =
        .ok (⟨⟨"/log"⟩, .lines, 0, 1⟩, after) ∧
      after.read ⟨"/log"⟩ = .ok (.ofString "[1970-01-01 00:01:00] c\n") := by
  have path := FileSystem.isName_at_root "log" (by decide)
  obtain ⟨start, opened⟩ := create_empty ⟨⟨"/log"⟩, .lines, 0, 0⟩ path rfl
  obtain ⟨after, ran, read, -⟩ := session_keeps_latest rfl FileSystem.isTree_empty
    opened (openedFresh_empty _ _)
    [.append ⟨0, "a\r\nb"⟩, .reopen, .append ⟨60, " c\n"⟩]
  have latest : record ((added [.append ⟨0, "a\r\nb"⟩, .reopen, .append ⟨60, " c\n"⟩]).drop 1) =
      "[1970-01-01 00:01:00] c\n" := by decide +kernel
  exact ⟨start, after, opened, ran, read.trans (by rw [← latest]; rfl)⟩

def appendAll (log : EventLog) (fs : FileSystem) (entries : List LogEntry) : Outcome FileSystem :=
  entries.foldlM (fun fs e => log.append e fs) fs

theorem Holds.appendAll {held : List LogEntry} (h : log.Holds fs held) (entries : List LogEntry) :
    ∃ fs', log.appendAll fs entries = .ok fs' ∧
      log.Holds fs' (entries.foldl log.retain held) := by
  induction entries generalizing fs held with
  | nil => exact ⟨fs, rfl, h⟩
  | cons e entries ih =>
    obtain ⟨fs', ha, holds⟩ := h.append e
    obtain ⟨fs'', hs, holds'⟩ := ih holds
    refine ⟨fs'', ?_, holds'⟩
    rw [EventLog.appendAll, List.foldlM_cons, ha]
    exact hs

/-- Every append to a log that was opened on nothing succeeds. It starts the file anew exactly when
the file has reached its limit, so that what stands before the newest line is below the limit. -/
theorem append_bounds_size {c : LogConfig} {log : EventLog} {fs fs' : FileSystem}
    (size : c.rotation = .size) (opened : create c fs = (fs', .ok log))
    (fresh : OpenedFresh c fs fs') (entries : List LogEntry) (e : LogEntry) :
    ∃ now next before after, log.appendAll fs' entries = .ok now ∧ log.append e now = .ok next ∧
      now.read c.path = .ok before ∧ next.read c.path = .ok after ∧
      (∃ lost stay, entries = lost ++ stay ∧ after = .ofString (record (stay ++ [e]))) ∧
      (c.maxBytes ≤ before.length → after = .ofString e.render) ∧
      (before.length < c.maxBytes → after = before ++ .ofString e.render) ∧
      ∃ rest, after.length = rest + (Bytes.ofString e.render).length ∧
        (rest = 0 ∨ rest < c.maxBytes) := by
  obtain ⟨now, ran, holds⟩ := (holds_nil_of_create opened fresh).appendAll entries
  obtain ⟨next, added, holds'⟩ := holds.append e
  obtain ⟨rfl, -⟩ := create_ok opened
  have step : (ofConfig c).retain ((ofConfig c).kept entries) e =
      if c.maxBytes ≤ (Bytes.ofString (record ((ofConfig c).kept entries))).length then [e]
      else (ofConfig c).kept entries ++ [e] := by
    unfold retain
    rw [show (ofConfig c).rotation = .size from size]
    rfl
  refine ⟨now, next, _, _, ran, added, holds.read, holds'.read, ?_, ?_, ?_, ?_⟩
  · obtain ⟨gone, same⟩ := (ofConfig c).kept_suffix entries
    obtain ⟨lost, stay, split, rest⟩ := (ofConfig c).retain_eq ((ofConfig c).kept entries) e
    refine ⟨gone ++ lost, stay, ?_, ?_⟩
    · rw [← same, split, List.append_assoc]
    · exact congrArg (fun held => Bytes.ofString (record held)) rest
  · intro full
    have := step.trans (if_pos full)
    change Bytes.ofString (record ((ofConfig c).retain ((ofConfig c).kept entries) e)) = _
    rw [this, record_singleton]
  · intro below
    have := step.trans (if_neg (Nat.not_le_of_lt below))
    change Bytes.ofString (record ((ofConfig c).retain ((ofConfig c).kept entries) e)) = _
    rw [this, record_append, record_singleton, Bytes.ofString_append]
    rfl
  · change ∃ rest, (Bytes.ofString (record ((ofConfig c).retain
      ((ofConfig c).kept entries) e))).length = _ ∧ _
    rw [step]
    split
    · exact ⟨0, by rw [record_singleton, Nat.zero_add], .inl rfl⟩
    · next below =>
      refine ⟨_, ?_, .inr (Nat.lt_of_not_le below)⟩
      rw [record_append, record_singleton, Bytes.ofString_append, List.length_append]

theorem append_bounds_size_of_full :
    ∃ opened now next,
      create ⟨⟨"/log"⟩, .size, 0, 0⟩ .empty = (opened, .ok ⟨⟨"/log"⟩, .size, 0, 1⟩) ∧
      appendAll ⟨⟨"/log"⟩, .size, 0, 1⟩ opened [⟨0, "a"⟩] = .ok now ∧
      append ⟨⟨"/log"⟩, .size, 0, 1⟩ ⟨60, "b"⟩ now = .ok next ∧
      next.read ⟨"/log"⟩ = .ok (.ofString "[1970-01-01 00:01:00] b\n") := by
  have path := FileSystem.isName_at_root "log" (by decide)
  obtain ⟨start, opened⟩ := create_empty ⟨⟨"/log"⟩, .size, 0, 0⟩ path rfl
  obtain ⟨now, next, before, after, ran, added, -, read, -, full, -⟩ :=
    append_bounds_size rfl opened (openedFresh_empty _ _) [⟨0, "a"⟩] ⟨60, "b"⟩
  have line : LogEntry.render ⟨60, "b"⟩ = "[1970-01-01 00:01:00] b\n" := by decide +kernel
  refine ⟨start, now, next, opened, ran, added, read.trans ?_⟩
  rw [full (Nat.zero_le _), line]

end EventLog

end EventRelay
