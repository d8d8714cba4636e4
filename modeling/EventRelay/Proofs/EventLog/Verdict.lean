import EventRelay.Proofs.EventLog.Opening

namespace EventRelay

namespace EventLog

variable {log : EventLog} {fs : FileSystem} {bytes : Bytes}

def content (log : EventLog) (fs : FileSystem) : Bytes :=
  (fs.read log.path).toOption.getD []

theorem content_of_openForWriting {l : Location} {old : Option Bytes}
    (h : fs.openForWriting log.path = .ok (l, old)) : log.content fs = old.getD [] := by
  rw [content, FileSystem.read_of_openForWriting h]
  cases old <;> rfl

/-- A content in which lines can be counted, if they are. -/
def Readable (log : EventLog) (content : Bytes) : Prop :=
  log.rotation = .lines → ∃ text, content = .ofString text

theorem readable_ofString (log : EventLog) (text : String) : log.Readable (.ofString text) :=
  fun _ => ⟨text, rfl⟩

theorem Readable.append {more : Bytes} (h : log.Readable bytes) (h' : log.Readable more) :
    log.Readable (bytes ++ more) := by
  intro lines
  obtain ⟨text, rfl⟩ := h lines
  obtain ⟨text', rfl⟩ := h' lines
  exact ⟨text ++ text', (Bytes.ofString_append text text').symm⟩

/-- A content that is short of the limit. -/
def HasRoom (log : EventLog) (content : Bytes) : Prop :=
  match log.rotation with
  | .size => content.length < log.maxBytes
  | .lines => ∀ text, content.toString? = some text → (Text.lines text).length < log.maxLines

theorem roomIn_of_readable (h : log.Readable bytes) (line : String) :
    ∃ r, log.roomIn bytes line = .ok r ∧ log.Readable r.kept ∧ log.Readable r.added := by
  unfold roomIn
  cases rotation : log.rotation with
  | size =>
    refine ⟨_, rfl, fun lines => ?_, fun lines => ?_⟩ <;> rw [rotation] at lines <;> cases lines
  | lines =>
    obtain ⟨text, rfl⟩ := h rotation
    simp only [Bytes.toString?_ofString]
    refine ⟨_, rfl, ?_⟩
    unfold roomWithinLines
    simp only
    split
    · exact ⟨log.readable_ofString _, log.readable_ofString _⟩
    · exact ⟨fun _ => ⟨"", Bytes.ofString_empty.symm⟩, log.readable_ofString _⟩

theorem roomIn_of_not_readable (h : ¬ log.Readable bytes) (line : String) :
    log.roomIn bytes line = .error (log.failure "read" .invalidText) := by
  unfold roomIn
  cases rotation : log.rotation with
  | size =>
    refine absurd (fun lines => ?_) h
    rw [rotation] at lines
    cases lines
  | lines =>
    cases text : bytes.toString? with
    | none => rfl
    | some s => exact absurd (fun _ => ⟨s, (Bytes.ofString_of_toString? text).symm⟩) h

theorem roomIn_of_hasRoom (h : log.Readable bytes) (room : log.HasRoom bytes)
    (line : String) : log.roomIn bytes line = .ok ⟨bytes, .ofString line⟩ := by
  unfold roomIn
  unfold HasRoom at room
  cases rotation : log.rotation with
  | size =>
    rw [rotation] at room
    rw [roomWithinBytes, if_neg (Nat.not_le_of_lt room)]
  | lines =>
    rw [rotation] at room
    obtain ⟨text, rfl⟩ := h rotation
    have few := room text (Bytes.toString?_ofString text)
    simp only [Bytes.toString?_ofString]
    rw [roomWithinLines, if_pos few]

/-- Either no entry can be added to a log, or each one can. -/
inductive Outlook (log : EventLog) (fs : FileSystem) : Prop
  | fails (f : Failure) (start : ∀ e, log.start e fs = .error f)
  | opens (l : Location) (old : Option Bytes) (opens : fs.openForWriting log.path = .ok (l, old))
    (readable : log.Readable (old.getD []))

theorem room_uniform (log : EventLog) (fs : FileSystem) :
    (∃ f, ∀ line, log.room line fs = .error f) ∨ ∀ line, ∃ r, log.room line fs = .ok r := by
  unfold room
  cases log.rotation with
  | size =>
    rcases fs.read log.path with e | content
    · cases e <;> first | exact .inr fun line => ⟨_, rfl⟩ | exact .inl ⟨_, fun line => rfl⟩
    · exact .inr fun line => ⟨_, rfl⟩
  | lines =>
    rcases fs.readText log.path with e | text
    · cases e <;> first | exact .inr fun line => ⟨_, rfl⟩ | exact .inl ⟨_, fun line => rfl⟩
    · exact .inr fun line => ⟨_, rfl⟩

theorem outlook (log : EventLog) (fs : FileSystem) : log.Outlook fs := by
  rcases opens : fs.openForWriting log.path with error | ⟨l, old⟩
  · rcases log.room_uniform fs with ⟨f, failed⟩ | roomy
    · refine .fails f fun e => ?_
      rw [start, failed]
      rfl
    · refine .fails (log.failure "open" error) fun e => ?_
      obtain ⟨r, room⟩ := roomy e.render
      rw [start, room, opens]
      rfl
  · by_cases readable : log.Readable (old.getD [])
    · exact .opens l old opens readable
    · refine .fails (log.failure "read" .invalidText) fun e => ?_
      rw [start_of_openForWriting opens, roomIn_of_not_readable readable]
      rfl

def verdict (log : EventLog) (fs : FileSystem) : Outcome Unit :=
  (log.start { receivedAt := 0, raw := "" } fs).map fun _ => ()

theorem verdict_of_fails {f : Failure} (h : ∀ e, log.start e fs = .error f) :
    log.verdict fs = .error f := by
  rw [verdict, h]
  rfl

theorem start_of_opens {l : Location} {old : Option Bytes}
    (opens : fs.openForWriting log.path = .ok (l, old)) (readable : log.Readable (old.getD []))
    (e : LogEntry) : ∃ kept added, log.start e fs = .ok (fs.put l (.file kept), ⟨l, added⟩) ∧
      log.roomIn (old.getD []) e.render = .ok ⟨kept, added⟩ ∧ log.Readable kept ∧
      log.Readable added := by
  obtain ⟨⟨kept, added⟩, room, readable, readable'⟩ := roomIn_of_readable readable e.render
  refine ⟨kept, added, ?_, room, readable, readable'⟩
  rw [start_of_openForWriting opens, room]
  rfl

theorem verdict_of_opens {l : Location} {old : Option Bytes}
    (opens : fs.openForWriting log.path = .ok (l, old)) (readable : log.Readable (old.getD [])) :
    log.verdict fs = .ok () := by
  obtain ⟨_, _, start, _⟩ := start_of_opens opens readable { receivedAt := 0, raw := "" }
  rw [verdict, start]
  rfl

theorem map_start (log : EventLog) (e : LogEntry) (fs : FileSystem) :
    (log.start e fs).map (fun _ => ()) = log.verdict fs := by
  cases log.outlook fs with
  | fails f start =>
    rw [verdict_of_fails start, start]
    rfl
  | opens l old opens readable =>
    obtain ⟨_, _, start, _⟩ := start_of_opens opens readable e
    rw [verdict_of_opens opens readable, start]
    rfl

end EventLog

end EventRelay
