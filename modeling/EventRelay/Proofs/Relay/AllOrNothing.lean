import EventRelay.Proofs.Files.Places
import EventRelay.Proofs.Relay.SingleInstance

/-!
A start while nobody else is at work. Main statements: a start that succeeds has the log, the
listener and the PID file and can give the last two back, and one that fails has no listener; unless
the path of the PID file hides a file, one that fails leaves no PID file that names its process and
one that meets a running relay has changed nothing.
-/

namespace EventRelay

theorem EventLog.category_of_create {fs made : FileSystem} {c : LogConfig} {f : Failure}
    (failed : create c fs = (made, .error f)) : f.category = .io := by
  unfold create at failed
  rcases hp : fs.makeParent c.path "create log directory" with ⟨made', e | u⟩ <;>
    rw [hp] at failed
  · cases failed
    exact FileSystem.category_of_makeParent hp
  · simp only at failed
    split at failed <;> cases failed
    rfl

theorem EventLog.adds_create (c : LogConfig) (fs : FileSystem) :
    FileSystem.Adds (fs.place c.path) fs (create c fs).1 := by
  have grown := (fs.grows_makeParent c.path "create log directory").adds (fs.place c.path)
  unfold create
  rcases hp : fs.makeParent c.path "create log directory" with ⟨made, e | u⟩ <;> rw [hp] at grown
  · exact grown
  · simp only
    split
    · exact grown
    · next appended =>
      refine grown.trans ?_
      rw [← grown.place c.path]
      exact .append_nil appended

namespace Relay

variable {c : Config} {sink : Sink} {ps : Processes} {before m : Machine}

def Startup.left : Startup → Nat
  | .checking l => l.left + 11
  | .opening => 10
  | .binding _ => 9
  | .claiming _ claim => claim.left + 1
  | .up _ | .failed _ => 0

theorem Startup.left_step (c : Config) (sink : Sink) (ps : Processes) (m : Machine)
    (startup : Startup) : (step c sink ps m startup).2.left ≤ startup.left - 1 := by
  unfold step
  split
  · exact Nat.zero_le _
  · exact Nat.zero_le _
  · exact Nat.le_refl 10
  · next l failed running free =>
    have less := l.left_step ps c.daemon.pidFile m.files
    have unfinished := l.left_pos failed running free
    simp only [left]
    omega
  · split <;> simp [left]
  · split
    · exact Nat.zero_le _
    · exact Nat.le_refl 8
  · exact Nat.zero_le _
  · exact Nat.zero_le _
  · next claim recorded failed =>
    have less := claim.left_step ps c.daemon.pidFile m.files
    have unfinished := claim.left_pos fun result settled => by
      cases result with
      | ok p => exact recorded p settled
      | error e => exact failed e settled
    simp only [left]
    omega
  · exact Nat.le_refl 0
  · exact Nat.le_refl 0

theorem Startup.left_run (c : Config) (sink : Sink) (ps : Processes) (m : Machine)
    (startup : Startup) (steps : Nat) :
    (run c sink ps steps (m, startup)).2.left ≤ startup.left - steps := by
  induction steps generalizing m startup with
  | zero => exact Nat.le_refl _
  | succ steps ih =>
    have first := startup.left_step c sink ps m
    calc (run c sink ps steps (step c sink ps m startup)).2.left
      _ ≤ (step c sink ps m startup).2.left - steps := ih _ _
      _ ≤ startup.left - (steps + 1) := by omega

theorem start_ends (c : Config) (sink : Sink) (ps : Processes) (m : Machine) :
    ∃ after, (∃ s, Startup.run c sink ps Startup.length (m, .checking .looking) = (after, .up s) ∧
        start c sink ps m = (after, .ok s)) ∨
      ∃ f, Startup.run c sink ps Startup.length (m, .checking .looking) = (after, .failed f) ∧
        start c sink ps m = (after, .error f) := by
  have ended := Startup.left_run c sink ps m (.checking .looking) Startup.length
  unfold start
  rcases ran : Startup.run c sink ps Startup.length (m, .checking .looking) with ⟨after, startup⟩
  rw [ran] at ended
  have exhausted : startup.left = 0 := Nat.le_zero.mp ended
  refine ⟨after, ?_⟩
  cases startup with
  | up s => exact .inl ⟨s, rfl, rfl⟩
  | failed f => exact .inr ⟨f, rfl, rfl⟩
  | _ => simp [Startup.left] at exhausted

section Files

variable {fs later : FileSystem}

/-- Whatever is added, the path of the PID file leads to no file, unless to the log when empty. -/
def Vacant (c : Config) (fs : FileSystem) : Prop :=
  ∀ later, FileSystem.Adds (fs.place c.log.path) fs later →
    ∀ content, later.read c.daemon.pidFile = .ok content →
      content = [] ∧ fs.place c.daemon.pidFile = fs.place c.log.path

namespace Vacant

theorem of_missing (missing : fs.exists? c.daemon.pidFile = false)
    (bare : ¬ fs.Hides c.daemon.pidFile) : Vacant c fs := by
  intro later adds content readable
  obtain ⟨l, found⟩ := FileSystem.find_of_read readable
  obtain ⟨here, empty⟩ := adds.of_find_file missing bare found
  rw [FileSystem.place_of_find found, adds.place] at here
  exact ⟨empty, here⟩

theorem of_erase {l : Location} {content : Bytes}
    (found : fs.find c.daemon.pidFile = .ok (l, .file content)) : Vacant c (fs.erase l) := by
  have file := FileSystem.not_directory_of_find found
  have keeps := FileSystem.KeepsDirectories.erase file
  have here := FileSystem.place_of_find found
  intro later adds new readable
  obtain ⟨k, again⟩ := FileSystem.find_of_read readable
  have same := FileSystem.place_of_find again
  rw [adds.place, keeps.place, ← here] at same
  subst same
  rw [keeps.place, keeps.place, ← here]
  rcases adds.node?_of_file (FileSystem.node?_of_find again) with old | ⟨log, empty⟩
  · rw [FileSystem.node?_erase_self (FileSystem.ne_root_of_node? file)] at old
    cases old
  · rw [keeps.place] at log
    exact ⟨empty, log⟩

theorem adds (h : Vacant c fs) (adds : FileSystem.Adds (fs.place c.log.path) fs later) :
    Vacant c later := by
  intro last adds' content readable
  rw [adds.place] at adds' ⊢
  rw [adds.place]
  exact h last (adds.trans adds') content readable

theorem read (h : Vacant c fs) {content : Bytes}
    (readable : fs.read c.daemon.pidFile = .ok content) :
    content = [] ∧ fs.place c.daemon.pidFile = fs.place c.log.path :=
  h fs (.refl _ _) content readable

theorem unnamed (h : Vacant c fs) (pid : Nat) :
    PidFile.read fs c.daemon.pidFile ≠ .ok (some pid) := by
  cases readable : fs.read c.daemon.pidFile with
  | error e =>
    have text : fs.readText c.daemon.pidFile = .error e := by
      rw [FileSystem.readText, readable]
      rfl
    rw [PidFile.read, text]
    cases e <;> simp
  | ok content =>
    obtain ⟨rfl, -⟩ := h.read readable
    have text := FileSystem.readText_of_read readable
    rw [Bytes.toString?_nil] at text
    rw [PidFile.read, text]
    have nobody : PidFile.named? "" = none := by decide
    simp [nobody]

end Vacant

structure LogReady (c : Config) (fs : FileSystem) : Prop where
  target : ∃ t, fs.target c.log.path = .ok t ∧ t.Fits ∧ t.slash = false
  there : fs.place c.daemon.pidFile ≠ fs.place c.log.path →
    ∃ content, fs.node? (fs.place c.log.path) = some (.file content)

namespace LogReady

theorem of_create {log : EventLog} (opened : EventLog.create c.log fs = (later, .ok log)) :
    LogReady c later := by
  obtain ⟨rfl, made, l, old, -, -, ho, rfl⟩ := EventLog.create_ok opened
  have file := FileSystem.not_directory_of_openForWriting ho
  have keeps := FileSystem.KeepsDirectories.put file (.file (old.getD []))
  obtain ⟨t, ht, fits, -, -, slash⟩ := FileSystem.openForWriting_eq_ok_iff.mp ho
  refine ⟨⟨t, keeps.target ht, fits, slash⟩, fun _ => ⟨old.getD [], ?_⟩⟩
  rw [keeps.place, ← FileSystem.place_of_openForWriting ho]
  exact FileSystem.node?_put_self (FileSystem.ne_root_of_node? file)

theorem mono (h : LogReady c fs) (keeps : FileSystem.KeepsDirectories fs later)
    (same : fs.place c.daemon.pidFile ≠ fs.place c.log.path →
      ∀ node, fs.node? (fs.place c.log.path) = some node →
        later.node? (fs.place c.log.path) = some node) : LogReady c later := by
  obtain ⟨t, ht, fits, slash⟩ := h.target
  refine ⟨⟨t, keeps.target ht, fits, slash⟩, fun distinct => ?_⟩
  rw [keeps.place, keeps.place] at distinct
  obtain ⟨content, there⟩ := h.there distinct
  rw [keeps.place]
  exact ⟨content, same distinct _ there⟩

theorem read_of_write (h : LogReady c fs) {content : Bytes}
    (written : fs.write c.daemon.pidFile content = .ok later) :
    ∃ kept, later.read c.log.path = .ok kept := by
  unfold FileSystem.write at written
  rcases ho : fs.openForWriting c.daemon.pidFile with e | ⟨l, old⟩ <;> rw [ho] at written <;>
    cases written
  have file := FileSystem.not_directory_of_openForWriting ho
  have keeps := FileSystem.KeepsDirectories.put file (.file content)
  have here := FileSystem.place_of_openForWriting ho
  obtain ⟨t, ht, fits, slash⟩ := h.target
  have there : ∃ kept, (fs.put l (.file content)).node? (fs.place c.log.path) =
      some (.file kept) := by
    by_cases same : fs.place c.log.path = l
    · rw [same]
      exact ⟨content, FileSystem.node?_put_self (FileSystem.ne_root_of_node? file)⟩
    · obtain ⟨kept, there⟩ := h.there fun e => same (e.symm.trans here.symm)
      exact ⟨kept, (FileSystem.node?_put_of_ne same).trans there⟩
  obtain ⟨kept, there⟩ := there
  refine ⟨kept, FileSystem.read_of_find (FileSystem.find_eq_ok_iff.mpr
    ⟨t, keeps.target ht, fits, FileSystem.place_of_target ht, there, fun _ => slash⟩)⟩

end LogReady

end Files

/--
What holds during a claim in which nobody else has a hand. `bare` is said of the files on which the
start began: the path of the PID file hides no file in them.
-/
def ClaimUnopposed (bare : Prop) (c : Config) (ps : Processes) (files : FileSystem) :
    PidFile.Claim → Prop
  | .checking l => ∃ before, (bare → Vacant c before) ∧ LogReady c before ∧
      l.Faithful ps c.daemon.pidFile before files
  | .preparing | .recording => (bare → Vacant c files) ∧ LogReady c files
  | .settled (.error f) => bare → f.category = .io ∧ Vacant c files
  | .settled (.ok _) => ∃ content, files.read c.log.path = .ok content

theorem ClaimUnopposed.step {bare : Prop} {files : FileSystem} {claim : PidFile.Claim}
    (h : ClaimUnopposed bare c ps files claim) :
    ClaimUnopposed bare c ps (claim.step ps c.daemon.pidFile files).1
      (claim.step ps c.daemon.pidFile files).2 := by
  unfold PidFile.Claim.step
  split
  · obtain ⟨_, vacant, -, rfl, failed⟩ := h
    exact fun bare => ⟨PidFile.category_of_read failed, vacant bare⟩
  · next pid =>
    -- The file was found to name nobody before the log was created.
    obtain ⟨_, vacant, -, rfl, named, -⟩ := h
    exact fun bare => absurd named ((vacant bare).unnamed pid)
  · obtain ⟨_, vacant, ready, ⟨rfl, -⟩ | ⟨l, content, found, rfl⟩⟩ := h
    · exact ⟨vacant, ready⟩
    · refine ⟨fun _ => .of_erase found,
        ready.mono (.erase (FileSystem.not_directory_of_find found)) ?_⟩
      intro distinct node there
      rw [FileSystem.place_of_find found, FileSystem.node?_erase_of_ne distinct.symm]
      exact there
  · obtain ⟨before, vacant, ready, faithful⟩ := h
    exact ⟨before, vacant, ready, faithful.step⟩
  · obtain ⟨vacant, ready⟩ := h
    have grown := files.grows_makeParent c.daemon.pidFile "create pid file directory"
    have vacant (bare : bare) := (vacant bare).adds (grown.adds _)
    have ready := ready.mono grown.keepsDirectories fun _ _ there => grown.node?_of_some there
    split
    · next failed =>
      rw [failed] at vacant
      exact fun bare => ⟨FileSystem.category_of_makeParent failed, vacant bare⟩
    · next made =>
      rw [made] at vacant ready
      exact ⟨vacant, ready⟩
  · obtain ⟨vacant, ready⟩ := h
    split
    · exact fun bare => ⟨rfl, vacant bare⟩
    · next written => exact ready.read_of_write written
  · exact h

/-- What a start that failed has left of the machine. -/
structure Refused (c : Config) (ps : Processes) (before after : Machine) (f : Failure) : Prop where
  listeners : after.listeners = before.listeners
  unnamed : PidFile.read after.files c.daemon.pidFile ≠ .ok (some ps.self)
  /-- Another relay is running, and nothing was touched. -/
  running : ∀ pid, f = .alreadyRunning pid → after = before ∧
    PidFile.read before.files c.daemon.pidFile = .ok (some pid) ∧
    pid ≠ ps.self ∧ ps.isRunning pid = true
  /-- No PID file was written. What can be read there is the new log, if both have one place. -/
  unbound : ∀ address operation causes, f = .transport address operation causes →
    ∀ content, after.files.read c.daemon.pidFile = .ok content →
      content = [] ∧ after.files.place c.daemon.pidFile = after.files.place c.log.path

theorem Refused.of_io {after : Machine} {f : Failure} (io : f.category = .io)
    (listeners : after.listeners = before.listeners)
    (unnamed : PidFile.read after.files c.daemon.pidFile ≠ .ok (some ps.self)) :
    Refused c ps before after f := by
  refine ⟨listeners, unnamed, ?_, ?_⟩
  · rintro pid rfl
    cases io
  · rintro address operation causes rfl
    cases io

def Bound (c : Config) (ps : Processes) (before m : Machine) : Prop :=
  (∀ l ∈ before.listeners, l.address ≠ c.server.listenAddress) ∧
    m.listeners = ⟨c.server.listenAddress, ps.self⟩ :: before.listeners

theorem Bound.close (h : Bound c ps before m) :
    (m.close ⟨c.server.listenAddress, ps.self⟩).listeners = before.listeners := by
  obtain ⟨free, listeners⟩ := h
  rw [Machine.close, listeners, List.filter_cons_of_neg (by simp), List.filter_eq_self]
  intro l mem
  have other : l ≠ ⟨c.server.listenAddress, ps.self⟩ := by
    rintro rfl
    exact free _ mem rfl
  simpa using other

def Startup.Unopposed (c : Config) (ps : Processes) (before m : Machine) : Startup → Prop
  | .checking l => m = { before with files := m.files } ∧
      l.Faithful ps c.daemon.pidFile before.files m.files
  | .opening => m.listeners = before.listeners ∧
      (¬ before.files.Hides c.daemon.pidFile → Vacant c m.files)
  | .binding _ => m.listeners = before.listeners ∧
      (¬ before.files.Hides c.daemon.pidFile → Vacant c m.files) ∧ LogReady c m.files
  | .claiming _ claim => Bound c ps before m ∧
      ClaimUnopposed (¬ before.files.Hides c.daemon.pidFile) c ps m.files claim
  | .up _ => Bound c ps before m ∧ ∃ content, m.files.read c.log.path = .ok content
  | .failed f => m.listeners = before.listeners ∧
      (¬ before.files.Hides c.daemon.pidFile → Refused c ps before m f)

theorem Startup.Unopposed.step {startup : Startup} (h : startup.Unopposed c ps before m) :
    (step c sink ps m startup).2.Unopposed c ps before (step c sink ps m startup).1 := by
  unfold Startup.step
  split
  · obtain ⟨same, files, failed⟩ := h
    rw [same, files]
    refine ⟨rfl, fun _ => .of_io (PidFile.category_of_read failed) rfl ?_⟩
    rw [failed]
    simp
  · next pid =>
    obtain ⟨same, files, named, live⟩ := h
    rw [same, files]
    obtain ⟨other, running⟩ : pid ≠ ps.self ∧ ps.isRunning pid = true := by
      simpa [PidFile.blocks] using live
    refine ⟨rfl, fun _ => ⟨rfl, ?_, ?_, ?_⟩⟩
    · rw [named]
      simpa using other
    · rintro _ ⟨⟩
      exact ⟨rfl, named, other, running⟩
    · rintro _ _ _ ⟨⟩
  · obtain ⟨same, ⟨files, missing⟩ | ⟨l, content, found, files⟩⟩ := h
    · refine ⟨by rw [same], fun bare => ?_⟩
      rw [files]
      exact .of_missing missing bare
    · refine ⟨by rw [same], fun _ => ?_⟩
      rw [files]
      exact .of_erase found
  · obtain ⟨same, faithful⟩ := h
    exact ⟨by rw [same], faithful.step⟩
  · obtain ⟨listeners, vacant⟩ := h
    have vacant (bare : ¬ before.files.Hides c.daemon.pidFile) :=
      (vacant bare).adds (EventLog.adds_create c.log m.files)
    split
    · next failed =>
      rw [failed] at vacant
      exact ⟨listeners, fun bare =>
        .of_io (EventLog.category_of_create failed) listeners ((vacant bare).unnamed _)⟩
    · next opened =>
      rw [opened] at vacant
      exact ⟨listeners, vacant, .of_create opened⟩
  · obtain ⟨listeners, vacant, ready⟩ := h
    split
    · next failed =>
      refine ⟨listeners, fun bare => ⟨listeners, (vacant bare).unnamed _, ?_, ?_⟩⟩
      · rintro pid rfl
        cases Machine.category_of_listen failed
      · intro _ _ _ _ content readable
        exact (vacant bare).read readable
    · next listening =>
      obtain ⟨free, rfl⟩ := Machine.listen_ok listening
      rw [listeners] at free
      exact ⟨⟨free, by rw [listeners]⟩, _, vacant, ready, rfl⟩
  · exact h
  · obtain ⟨bound, unclaimed⟩ := h
    refine ⟨bound.close, fun bare => ?_⟩
    obtain ⟨io, vacant⟩ := unclaimed bare
    exact .of_io io bound.close (vacant.unnamed _)
  · exact ⟨h.1, h.2.step⟩
  · exact h
  · exact h

theorem Startup.Unopposed.run {startup : Startup} (sink : Sink)
    (h : startup.Unopposed c ps before m) (steps : Nat) :
    (run c sink ps steps (m, startup)).2.Unopposed c ps before
      (run c sink ps steps (m, startup)).1 := by
  induction steps generalizing m startup with
  | zero => exact h
  | succ steps ih => exact ih h.step

theorem start_of_running (sink : Sink) {pid : Nat}
    (there : m.files.exists? c.daemon.pidFile = true)
    (named : PidFile.read m.files c.daemon.pidFile = .ok (some pid))
    (live : PidFile.blocks ps pid = true) :
    start c sink ps m = (m, .error (.alreadyRunning pid)) := by
  obtain ⟨looking, reading, judging⟩ := PidFile.Lookup.steps_of_blocks there named live
  have looked : Startup.step c sink ps m (.checking .looking) = (m, .checking .reading) := by
    simp only [Startup.step, looking]
  have read : Startup.step c sink ps m (.checking .reading) =
      (m, .checking (.judging (some pid))) := by
    simp only [Startup.step, reading]
  have judged : Startup.step c sink ps m (.checking (.judging (some pid))) =
      (m, .checking (.found (.ok (some pid)))) := by
    simp only [Startup.step, judging]
  have ran : Startup.run c sink ps Startup.length (m, .checking .looking) =
      (m, .failed (.alreadyRunning pid)) := by
    change Startup.run c sink ps 15 _ = _
    rw [Startup.run, looked, Startup.run, read, Startup.run, judged, Startup.run]
    exact Startup.run_failed m (.alreadyRunning pid) 11
  unfold start
  rw [ran]

/-- Once the log is created and the address bound, the second look-up finds the relay. -/
theorem start_of_revealed (sink : Sink) {opened : FileSystem} {log : EventLog} {bound : Machine}
    {pid : Nat} (missing : m.files.exists? c.daemon.pidFile = false)
    (created : EventLog.create c.log m.files = (opened, .ok log))
    (listens : { m with files := opened }.listen ⟨c.server.listenAddress, ps.self⟩ = .ok bound)
    (there : opened.exists? c.daemon.pidFile = true)
    (named : PidFile.read opened c.daemon.pidFile = .ok (some pid))
    (live : PidFile.blocks ps pid = true) :
    start c sink ps m =
      (bound.close ⟨c.server.listenAddress, ps.self⟩, .error (.alreadyRunning pid)) := by
  have files : bound.files = opened := by rw [(Machine.listen_ok listens).2]
  obtain ⟨looking, reading, judging⟩ := PidFile.Lookup.steps_of_blocks there named live
  have looked : Startup.step c sink ps m (.checking .looking) =
      (m, .checking (.found (.ok none))) := by
    simp only [Startup.step, PidFile.Lookup.step, missing]
    rfl
  have opening : Startup.step c sink ps m .opening =
      ({ m with files := opened }, .binding log) := by
    simp only [Startup.step, created]
  have binding : Startup.step c sink ps { m with files := opened } (.binding log) =
      (bound, .claiming log (.checking .looking)) := by
    simp only [Startup.step, listens]
  have again : Startup.step c sink ps bound (.claiming log (.checking .looking)) =
      (bound, .claiming log (.checking .reading)) := by
    simp only [Startup.step, PidFile.Claim.step, files, looking]
    rw [← files]
  have read : Startup.step c sink ps bound (.claiming log (.checking .reading)) =
      (bound, .claiming log (.checking (.judging (some pid)))) := by
    simp only [Startup.step, PidFile.Claim.step, files, reading]
    rw [← files]
  have judged : Startup.step c sink ps bound (.claiming log (.checking (.judging (some pid)))) =
      (bound, .claiming log (.checking (.found (.ok (some pid))))) := by
    simp only [Startup.step, PidFile.Claim.step, files, judging]
    rw [← files]
  have ran : Startup.run c sink ps Startup.length (m, .checking .looking) =
      (bound.close ⟨c.server.listenAddress, ps.self⟩, .failed (.alreadyRunning pid)) := by
    change Startup.run c sink ps 15 _ = _
    rw [Startup.run, looked, Startup.run]
    change Startup.run c sink ps 13 (m, .opening) = _
    rw [Startup.run, opening, Startup.run, binding, Startup.run, again, Startup.run, read,
      Startup.run, judged]
    exact Startup.run_failed _ (.alreadyRunning pid) 6
  unfold start
  rw [ran]

/-- A relay that has come up. -/
structure Established (c : Config) (ps : Processes) (before after : Machine) (s : Service) :
    Prop where
  log : ∃ content, after.files.read c.log.path = .ok content
  listeners : after.listeners = ⟨c.server.listenAddress, ps.self⟩ :: before.listeners
  named : after.files.read c.daemon.pidFile = .ok (.ofString (PidFile.text ps.self))
  teardown : ∃ stopped, s.teardown after = (stopped, .ok ()) ∧
    stopped.listeners = before.listeners ∧ stopped.files.exists? c.daemon.pidFile = false

/-- Whatever stands at the paths, a start that succeeds has all and one that fails listens not. -/
theorem start_unopposed (c : Config) (sink : Sink) (ps : Processes) (before : Machine) :
    match start c sink ps before with
    | (after, .ok s) => Established c ps before after s
    | (after, .error f) => after.listeners = before.listeners ∧
        (¬ before.files.Hides c.daemon.pidFile → Refused c ps before after f) := by
  have first : Startup.Unopposed c ps before before (.checking .looking) := ⟨rfl, rfl⟩
  have last := first.run sink Startup.length
  obtain ⟨after, ⟨s, ran, started⟩ | ⟨f, ran, started⟩⟩ := start_ends c sink ps before
  · rw [ran] at last
    rw [started]
    obtain ⟨rfl, recorded⟩ := start_ok started
    obtain ⟨bound, log⟩ := last
    obtain ⟨files, released, gone⟩ := recorded.release
    let closed := after.close ⟨c.server.listenAddress, ps.self⟩
    refine ⟨log, bound.2, recorded, { closed with files }, ?_, bound.close, gone⟩
    change (fun r => ({ closed with files := r.1 }, r.2)) (PidFile.release _ after.files) = _
    rw [released]
  · rw [ran] at last
    rw [started]
    exact last

def AllOrNothing (c : Config) (ps : Processes) (before : Machine) :
    Machine × Outcome Service → Prop
  | (after, .ok s) => Established c ps before after s
  | (after, .error f) => Refused c ps before after f

theorem start_all_or_nothing (c : Config) (sink : Sink) (ps : Processes) (before : Machine)
    (bare : ¬ before.files.Hides c.daemon.pidFile) :
    AllOrNothing c ps before (start c sink ps before) := by
  have unopposed := start_unopposed c sink ps before
  generalize start c sink ps before = result at unopposed ⊢
  obtain ⟨after, f | s⟩ := result
  · exact unopposed.2 bare
  · exact unopposed

theorem start_all_or_nothing_of_running :
    let ps : Processes := ⟨7, (· == 9)⟩
    let before : Machine :=
      { files := FileSystem.empty.put (.child .root "pid") (.file (.ofString (PidFile.text 9))) }
    ¬ before.files.Hides Site.sample.daemon.pidFile ∧
      AllOrNothing Site.sample ps before (start Site.sample Site.silent ps before) ∧
      start Site.sample Site.silent ps before = (before, .error (.alreadyRunning 9)) := by
  intro ps before
  have tree : before.files.IsTree := FileSystem.isTree_empty.put (by decide) rfl _
  have pid := FileSystem.isName_of_plain "pid" (by decide)
  have bare : ¬ before.files.Hides ⟨"pid"⟩ := tree.not_hides (by rw [pid.names]; decide)
  have found : before.files.find Site.sample.daemon.pidFile = _ :=
    pid.find (rfl : before.files.node? (.child .root "pid") = _)
  have recorded : (⟨Site.sample.daemon.pidFile, 9⟩ : PidFile).Recorded before.files :=
    FileSystem.read_of_find found
  exact ⟨bare, start_all_or_nothing Site.sample Site.silent ps before bare,
    start_of_running Site.silent recorded.exists? (recorded.read (by decide)) (by decide)⟩

section Hidden

def detour : Config := { log := { path := ⟨"x/l"⟩ }, daemon := { pidFile := ⟨"x/../p"⟩ } }

def covered : Machine :=
  { files := FileSystem.empty.put (.child .root "p") (.file (.ofString (PidFile.text 9))) }

theorem names_detour_pidFile : detour.daemon.pidFile.names = ["x", "..", "p"] := by
  simp +decide [detour, Path.names, Path.pieces, String.splitOn, String.splitOnAux]

theorem names_detour_log : detour.log.path.names = ["x", "l"] := by
  simp +decide [detour, Path.names, Path.pieces, String.splitOn, String.splitOnAux]

theorem target_detour_pidFile (fs : FileSystem) :
    fs.target detour.daemon.pidFile =
      (fs.descend fs.workingDirectory ["x", ".."]).map fun l => ⟨l, some "p", false⟩ :=
  FileSystem.target_of_names fs _ (by decide +kernel) names_detour_pidFile (by decide)
    (by decide +kernel)

theorem target_detour_log (fs : FileSystem) :
    fs.target detour.log.path =
      (fs.descend fs.workingDirectory ["x"]).map fun l => ⟨l, some "l", false⟩ :=
  FileSystem.target_of_names fs _ (by decide +kernel) names_detour_log (by decide)
    (by decide +kernel)

theorem create_detour :
    EventLog.create detour.log covered.files =
      ((covered.files.put (.child .root "x") .directory).put (.child (.child .root "x") "l")
        (.file []), .ok (.ofConfig detour.log)) := by
  let made := covered.files.put (.child .root "x") .directory
  have parent : detour.log.path.parent? = some ⟨"x"⟩ := by
    simp +decide [detour, Path.parent?, Path.pieces, String.splitOn, String.splitOnAux,
      Path.trimPieces]
  have fits := (FileSystem.isName_of_plain "x" (by decide)).fits covered.files
  have makes : covered.files.makeDirectory ⟨"x"⟩ = .ok made := by
    rw [FileSystem.makeDirectory_eq, (FileSystem.isName_of_plain "x" (by decide)).target]
    simp only [FileSystem.look_eq_ok_iff.mpr ⟨fits, rfl⟩]
    rfl
  have prepared : covered.files.makeParent detour.log.path "create log directory" =
      (made, .ok ()) := by
    unfold FileSystem.makeParent FileSystem.makeDirectories
    rw [parent]
    simp only [makes]
    rfl
  have opens : made.openForWriting detour.log.path = .ok (.child (.child .root "x") "l", none) :=
    FileSystem.openForWriting_eq_ok_iff.mpr ⟨⟨.child .root "x", some "l", false⟩,
      target_detour_log made, by decide +kernel, rfl, rfl, rfl⟩
  exact EventLog.create_of_opens prepared opens

theorem find_detour_pidFile :
    (EventLog.create detour.log covered.files).1.find detour.daemon.pidFile =
      .ok (.child .root "p", .file (.ofString (PidFile.text 9))) := by
  rw [create_detour]
  exact FileSystem.find_eq_ok_iff.mpr ⟨⟨.root, some "p", false⟩,
    target_detour_pidFile _, by decide +kernel, rfl, rfl, fun _ => rfl⟩

theorem missing_detour_pidFile : covered.files.exists? detour.daemon.pidFile = false := by
  rw [FileSystem.exists?, FileSystem.find_eq, target_detour_pidFile]
  rfl

/-- The live process 9 is met only when the log is there and the address was bound. -/
theorem log_created_despite_running :
    let ps : Processes := ⟨7, (· == 9)⟩
    let result := start detour Site.silent ps covered
    covered.files.place detour.daemon.pidFile ≠ covered.files.place detour.log.path ∧
      result.2 = .error (.alreadyRunning 9) ∧
      covered.files.exists? detour.log.path = false ∧
      result.1.files.exists? detour.log.path = true ∧
      ¬ AllOrNothing detour ps covered result := by
  intro ps result
  have distinct : covered.files.place detour.daemon.pidFile ≠
      covered.files.place detour.log.path := by
    rw [FileSystem.place, FileSystem.place, names_detour_pidFile, names_detour_log]
    decide
  have absent : covered.files.exists? detour.log.path = false := by
    rw [FileSystem.exists?, FileSystem.find_eq, target_detour_log]
    rfl
  have found := find_detour_pidFile
  rw [create_detour] at found
  have recorded : PidFile.Recorded ⟨detour.daemon.pidFile, 9⟩ _ := FileSystem.read_of_find found
  have met : result = _ := start_of_revealed (c := detour) Site.silent missing_detour_pidFile
    create_detour rfl recorded.exists? (recorded.read (by decide)) (by decide)
  have created : result.1.files.exists? detour.log.path = true := by
    rw [met, FileSystem.exists?, FileSystem.find_eq, target_detour_log]
    rfl
  rw [met] at created
  rw [met]
  refine ⟨distinct, rfl, absent, created, fun refused => ?_⟩
  obtain ⟨same, -⟩ := Refused.running refused 9 rfl
  rw [same, absent] at created
  cases created

end Hidden

end Relay

end EventRelay
