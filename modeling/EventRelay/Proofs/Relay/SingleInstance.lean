import EventRelay.Proofs.EventLog.Opening
import EventRelay.Proofs.Relay.Site
import Mathlib.Data.List.Induction

/-!
The PID file of a relay that is up, whatever the other processes of its machine do. Main statements:
the file names the relay, unless another process had read it before the relay wrote it and was
still to remove it; such a process takes the file from a running relay.
-/

namespace EventRelay

namespace Relay

namespace Startup

def HasRecorded : Startup → Prop
  | .claiming _ claim => ∃ p, claim = .settled (.ok p)
  | .up _ => True
  | _ => False

def isOutdated (pid : Nat) : Startup → Bool
  | .checking l | .claiming _ (.checking l) => l.isOutdated pid
  | _ => false

variable {c : Config} {sink : Sink} {ps : Processes} {m : Machine} {startup : Startup}

theorem of_hasRecorded_step (recorded : (step c sink ps m startup).2.HasRecorded) :
    startup.HasRecorded ∧ (step c sink ps m startup).1.files = m.files ∨
      (∃ log, startup = .claiming log .recording) ∧
        (⟨c.daemon.pidFile, ps.self⟩ : PidFile).Recorded (step c sink ps m startup).1.files := by
  unfold step at recorded ⊢
  split at recorded
  · cases recorded
  · cases recorded
  · cases recorded
  · cases recorded
  · split at recorded <;> cases recorded
  · split at recorded
    · cases recorded
    · obtain ⟨_, ⟨⟩⟩ := recorded
  · exact .inl ⟨⟨_, rfl⟩, rfl⟩
  · cases recorded
  · next log claim unsettled _ =>
    obtain ⟨p, settled⟩ := recorded
    rcases PidFile.Claim.ok_of_step settled with before | ⟨rfl, rfl, written⟩
    · exact absurd before (unsettled p)
    · exact .inr ⟨⟨log, rfl⟩, written⟩
  · exact .inl ⟨trivial, rfl⟩
  · cases recorded

theorem step_of_recorded {pid : Nat} (small : pid ≤ Text.max32)
    (holds : m.Holds ⟨c.server.listenAddress, pid⟩)
    (recorded : (⟨c.daemon.pidFile, pid⟩ : PidFile).Recorded m.files)
    (live : PidFile.blocks ps pid = true) (silent : startup.isBound = false)
    (current : startup.isOutdated pid = false) :
    (⟨c.daemon.pidFile, pid⟩ : PidFile).Recorded (step c sink ps m startup).1.files ∧
      (step c sink ps m startup).2.isOutdated pid = false := by
  unfold step
  split
  · exact ⟨recorded, rfl⟩
  · exact ⟨recorded, rfl⟩
  · exact ⟨recorded, rfl⟩
  · obtain ⟨files, next⟩ := PidFile.Lookup.step_of_recorded recorded small live current
    refine ⟨?_, next⟩
    rw [← files] at recorded
    exact recorded
  · obtain ⟨l, found⟩ := FileSystem.find_of_read recorded
    have kept := FileSystem.read_of_find (EventLog.find_create (c := c.log) found)
    split <;> next created => rw [created] at kept; exact ⟨kept, rfl⟩
  · obtain ⟨f, taken⟩ := holds.listen_error (l := ⟨c.server.listenAddress, ps.self⟩) rfl
    simp only [taken]
    exact ⟨recorded, rfl⟩
  · cases silent
  · cases silent
  · cases silent
  · cases silent
  · exact ⟨recorded, rfl⟩

end Startup

namespace Task

def HasRecorded : Task → Prop
  | .relay startup => startup.HasRecorded
  | _ => False

def isOutdated (pid : Nat) : Task → Bool
  | .relay startup => startup.isOutdated pid
  | .leaving _ release => release.isOutdated
  | .asking lookup => lookup.isOutdated pid
  | .other => false

variable {c : Config} {sink : Sink} {ps : Processes} {m : Machine} {task : Task} {pid : Nat}

theorem HasRecorded.isBound (h : task.HasRecorded) : task.isBound = true := by
  cases task with
  | relay startup => cases startup <;> first | rfl | cases h
  | leaving | asking | other => cases h

theorem of_hasRecorded_step (recorded : (task.step c sink ps m).2.HasRecorded) :
    task.HasRecorded ∧ (task.step c sink ps m).1.files = m.files ∨
      (∃ log, task = .relay (.claiming log .recording)) ∧
        (⟨c.daemon.pidFile, ps.self⟩ : PidFile).Recorded (task.step c sink ps m).1.files := by
  cases task with
  | relay startup =>
    rcases Startup.of_hasRecorded_step recorded with before | ⟨⟨log, rfl⟩, written⟩
    · exact .inl before
    · exact .inr ⟨⟨log, rfl⟩, written⟩
  | leaving p release => cases recorded
  | asking lookup => cases recorded
  | other => cases recorded

theorem Sound.step_of_recorded (sound : task.Sound c m ps.self) (ne : ps.self ≠ pid)
    (small : pid ≤ Text.max32) (holds : m.Holds ⟨c.server.listenAddress, pid⟩)
    (recorded : (⟨c.daemon.pidFile, pid⟩ : PidFile).Recorded m.files)
    (live : PidFile.blocks ps pid = true) (current : task.isOutdated pid = false) :
    (⟨c.daemon.pidFile, pid⟩ : PidFile).Recorded (task.step c sink ps m).1.files ∧
      (task.step c sink ps m).2.isOutdated pid = false := by
  cases task with
  | relay startup =>
    refine Startup.step_of_recorded small holds recorded live ?_ current
    rw [Bool.eq_false_iff]
    intro listens
    exact ne (congrArg Listener.pid (holds.unique (sound.holds listens) rfl))
  | leaving p release =>
    obtain rfl : p = _ := sound.own
    obtain ⟨files, next⟩ := PidFile.Release.step_of_recorded recorded small
      (q := ⟨c.daemon.pidFile, ps.self⟩) rfl ne current
    rw [← files] at recorded
    exact ⟨recorded, next⟩
  | asking lookup =>
    obtain ⟨files, next⟩ := PidFile.Lookup.step_of_recorded recorded small live current
    rw [← files] at recorded
    exact ⟨recorded, next⟩
  | other => exact ⟨recorded, rfl⟩

end Task

namespace Site

variable {c : Config} {sink : Sink} {s : Site} {m : Machine} {pid p : Nat} {new : Option Task}

def HasRecorded (s : Site) (pid : Nat) : Prop := ∃ task, s.tasks pid = some task ∧ task.HasRecorded

namespace HasRecorded

theorem of_isUp (up : s.isUp pid = true) : s.HasRecorded pid := by
  obtain ⟨service, present⟩ := isUp_iff.mp up
  exact ⟨_, present, trivial⟩

theorem holds (h : s.HasRecorded pid) (sound : s.Sound c) :
    s.machine.Holds ⟨c.server.listenAddress, pid⟩ := by
  obtain ⟨task, present, recorded⟩ := h
  exact (sound pid task present).holds recorded.isBound

theorem small (h : s.HasRecorded pid) (sound : s.Sound c) : pid ≤ Text.max32 := by
  obtain ⟨task, present, -⟩ := h
  exact Nat.le_trans (sound pid task present).small (by decide)

theorem blocks (h : s.HasRecorded pid) (sound : s.Sound c) (ne : p ≠ pid) :
    PidFile.blocks (s.processes p) pid = true := by
  obtain ⟨task, present, -⟩ := h
  have ⟨positive, small, _, _⟩ := sound pid task present
  simp [PidFile.blocks, Processes.isRunning, processes, present, small, positive, ne.symm]

theorem of_put (h : (s.put m p new).HasRecorded pid) :
    (p = pid ∧ ∃ task, new = some task ∧ task.HasRecorded) ∨ p ≠ pid ∧ s.HasRecorded pid := by
  obtain ⟨task, present, recorded⟩ := h
  rw [tasks_put] at present
  split at present
  · next eq => exact .inl ⟨eq.symm, task, present, recorded⟩
  · next ne => exact .inr ⟨fun eq => ne eq.symm, task, present, recorded⟩

end HasRecorded

def Records (s : Site) (pid : Nat) : Prop :=
  ∃ log, s.tasks pid = some (.relay (.claiming log .recording))

/--
Of the other processes none has read the PID file, though not that it names this one, and may still
remove it.
-/
def Undisturbed (s : Site) (pid : Nat) : Prop :=
  ∀ p task, p ≠ pid → s.tasks p = some task → task.isOutdated pid = false

theorem Undisturbed.put (h : s.Undisturbed pid)
    (current : p ≠ pid → ∀ task, new = some task → task.isOutdated pid = false) :
    (s.put m p new).Undisturbed pid := by
  intro q task ne present
  rw [tasks_put] at present
  split at present
  · next eq => exact current (eq ▸ ne) task present
  · exact h q task ne present

structure Named (c : Config) (s : Site) (pid : Nat) : Prop where
  recorded : (⟨c.daemon.pidFile, pid⟩ : PidFile).Recorded s.machine.files
  undisturbed : s.Undisturbed pid

theorem Named.next (sound : s.Sound c) {change : Change}
    (named : s.HasRecorded pid → s.Named c pid)
    (undisturbed : change = .step pid → s.Records pid → s.Undisturbed pid)
    (now : (next c sink s change).HasRecorded pid) : (next c sink s change).Named c pid := by
  cases change with
  | launch p program =>
    rw [Site.next] at now ⊢
    split at now
    · next free =>
      rw [if_pos free]
      rcases now.of_put with ⟨-, _, ⟨⟩, recorded⟩ | ⟨-, before⟩
      · cases program <;> cases recorded
      · refine ⟨(named before).recorded, (named before).undisturbed.put ?_⟩
        rintro - _ ⟨⟩
        cases program <;> rfl
    · next taken =>
      rw [if_neg taken]
      exact named now
  | step p =>
    rw [Site.next] at now ⊢
    cases present : s.tasks p with
    | none =>
      rw [present] at now
      exact named now
    | some task =>
      rw [present] at now
      rcases now.of_put with ⟨rfl, _, ⟨⟩, recorded⟩ | ⟨ne, before⟩
      · rcases Task.of_hasRecorded_step recorded with ⟨before, same⟩ | ⟨⟨log, rfl⟩, written⟩
        · have before := named ⟨task, present, before⟩
          refine ⟨?_, before.undisturbed.put fun own => absurd rfl own⟩
          change PidFile.Recorded _ (task.step c sink (s.processes p) s.machine).1.files
          rw [same]
          exact before.recorded
        · exact ⟨written, (undisturbed rfl ⟨log, present⟩).put fun own => absurd rfl own⟩
      · have own : task.Sound c s.machine (s.processes p).self := sound p task present
        obtain ⟨kept, current⟩ := own.step_of_recorded ne
          (before.small sound) (before.holds sound) (named before).recorded
          (before.blocks sound ne) ((named before).undisturbed p task ne present)
        refine ⟨kept, (named before).undisturbed.put ?_⟩
        rintro - _ ⟨⟩
        exact current
  | stop p =>
    rw [Site.next] at now ⊢
    split at now
    · next service up =>
      rcases now.of_put with ⟨-, _, ⟨⟩, recorded⟩ | ⟨ne, _, present, recorded⟩
      · cases recorded
      · exact absurd (sound.unique up present rfl recorded.isBound) ne
    · exact named now
  | exit p =>
    rcases now.of_put with ⟨-, _, ⟨⟩, -⟩ | ⟨-, before⟩
    exact ⟨(named before).recorded, (named before).undisturbed.put fun _ _ gone => by cases gone⟩

theorem named_run (machine : Machine) {changes : List Change}
    (undisturbed : ∀ earlier later, changes = earlier ++ .step pid :: later → .exit pid ∉ later →
      (run c sink { machine } earlier).Records pid →
        (run c sink { machine } earlier).Undisturbed pid)
    (recorded : (run c sink { machine } changes).HasRecorded pid) :
    (run c sink { machine } changes).Named c pid := by
  induction changes using List.reverseRecOn with
  | nil =>
    obtain ⟨task, present, -⟩ := recorded
    cases present
  | append_singleton changes change ih =>
    have lives : change ≠ .exit pid := by
      rintro rfl
      rw [run_concat] at recorded
      rcases recorded.of_put with ⟨-, _, ⟨⟩, -⟩ | ⟨ne, -⟩
      exact ne rfl
    rw [run_concat] at recorded ⊢
    refine Named.next ((Sound.empty machine).run changes) (ih ?_) ?_ recorded
    · rintro earlier later rfl stays
      exact undisturbed earlier (later ++ [change]) (by simp) (by simp [stays, lives.symm])
    · rintro rfl
      exact undisturbed changes [] rfl (by simp)

/--
However the steps of the processes come one after another, the PID file names a relay that is up,
if no other process was about to remove the file when the relay wrote it.
-/
theorem run_names_up {c : Config} {sink : Sink} (machine : Machine) {changes : List Change}
    {pid : Nat}
    (undisturbed : ∀ earlier later, changes = earlier ++ .step pid :: later → .exit pid ∉ later →
      (run c sink { machine } earlier).Records pid →
        (run c sink { machine } earlier).Undisturbed pid)
    (up : (run c sink { machine } changes).isUp pid = true) :
    (run c sink { machine } changes).machine.files.exists? c.daemon.pidFile = true ∧
      PidFile.read (run c sink { machine } changes).machine.files c.daemon.pidFile =
        .ok (some pid) := by
  have recorded := HasRecorded.of_isUp up
  have named := named_run machine undisturbed recorded
  have small := recorded.small ((Sound.empty (c := c) machine).run changes)
  exact ⟨named.recorded.exists?, named.recorded.read small⟩

section Leftover

def sample : Config := { log := { path := ⟨"log"⟩ }, daemon := { pidFile := ⟨"pid"⟩ } }

def silent : Sink := { name := "none", deliver := fun _ _ => { result := .ok none } }

def leftover : Machine :=
  { files := FileSystem.empty.put (.child .root "pid")
      (.file (.ofString (PidFile.text 4194305))) }

theorem find_leftover :
    leftover.files.find ⟨"pid"⟩ =
      .ok (.child .root "pid", .file (.ofString (PidFile.text 4194305))) :=
  FileSystem.find_put_of_openForWriting
    ((FileSystem.isName_of_plain "pid" (by decide)).openForWriting rfl) _

theorem isStale_leftover {ps : Processes} (dead : ps.present 4194305 = false) :
    PidFile.IsStale ps leftover.files ⟨"pid"⟩ := by
  have recorded : (⟨⟨"pid"⟩, 4194305⟩ : PidFile).Recorded leftover.files :=
    FileSystem.read_of_find find_leftover
  refine recorded.isStale (by decide) ?_
  simp [PidFile.blocks, Processes.isRunning, dead]

theorem relay_leftover {ps : Processes} (dead : ps.present 4194305 = false) :
    ∃ machine service, Program.relay.task.run sample silent ps leftover 12 =
        (machine, .relay (.up service)) ∧
      machine.files.read ⟨"pid"⟩ = .ok (.ofString (PidFile.text ps.self)) := by
  let cleared := leftover.files.erase (.child .root "pid")
  let opened := cleared.put (.child .root "log") (.file [])
  have log := FileSystem.isName_of_plain "log" (by decide)
  have pid := FileSystem.isName_of_plain "pid" (by decide)
  have opens : cleared.openForWriting sample.log.path = .ok (.child .root "log", none) :=
    log.openForWriting (by decide)
  have created : EventLog.create sample.log cleared = (opened, .ok (.ofConfig sample.log)) :=
    EventLog.create_of_opens (FileSystem.makeParent_of_hasParent log.hasParent _) opens
  have vacant : opened.node? (.child .root "pid") = none := by decide
  let named := opened.put (.child .root "pid") (.file (.ofString (PidFile.text ps.self)))
  have written : opened.write ⟨"pid"⟩ (.ofString (PidFile.text ps.self)) = .ok named :=
    pid.write vacant _
  have up := Startup.run_opening (c := sample) silent ps (m := { leftover with files := cleared })
    created rfl rfl rfl (pid.exists? vacant)
    (FileSystem.makeParent_of_hasParent pid.hasParent _) written 0
  have checked := Startup.run_stale (c := sample) silent (isStale_leftover dead)
    (FileSystem.removeFile_of_find find_leftover) 7
  have whole := congrArg (fun r => (r.1, Task.relay r.2)) (checked.trans up)
  exact ⟨_, _, (Task.run_relay _ 12).trans whole, FileSystem.read_of_write written⟩

theorem run_names_up_of_question :
    let s := run sample silent { machine := leftover }
      ((.launch 7 .relay :: List.replicate 12 (.step 7)) ++
        (.launch 9 .query :: List.replicate 3 (.step 9)))
    s.machine.files.exists? ⟨"pid"⟩ = true ∧
      PidFile.read s.machine.files ⟨"pid"⟩ = .ok (some 7) := by
  have own : ∀ change ∈ .launch 7 .relay :: List.replicate 12 (.step 7), Change.pid change = 7 := by
    decide
  have others : ∀ change ∈ .launch 9 .query :: List.replicate 3 (.step 9),
      Change.pid change = 9 := by
    decide
  refine run_names_up (c := sample) leftover ?_ ?_
  · intro earlier later cut _ _ p task ne present
    have alone : ∀ change ∈ earlier, change.pid ≠ p := by
      rcases List.append_eq_append_iff.mp cut with ⟨rest, -, late⟩ | ⟨rest, early, -⟩
      · have := others (.step 7) (by rw [late]; simp)
        cases this
      · intro change mem
        rw [own change (by rw [early]; simp [mem])]
        exact ne.symm
    rw [tasks_run alone] at present
    cases present
  · obtain ⟨machine, service, up, -⟩ := @relay_leftover
      ((Site.put { machine := leftover } leftover 7 (some Program.relay.task)).processes 7) rfl
    have started : run sample silent { machine := leftover }
        (.launch 7 .relay :: List.replicate 12 (.step 7)) =
          Site.put { machine := leftover } machine 7 (some (.relay (.up service))) := by
      refine (run_launch rfl (by decide) (by decide) 12).trans ?_
      rw [up]
    rw [isUp, run_append, tasks_run fun change mem => by rw [others change mem]; decide, started]
    rfl

theorem lost_of_removing {content : Bytes} (up : s.isUp pid = true)
    (removing : s.tasks p = some (.asking .removing))
    (there : s.machine.files.read c.daemon.pidFile = .ok content) :
    (next c sink s (.step p)).isUp pid = true ∧
      (next c sink s (.step p)).machine.files.exists? c.daemon.pidFile = false := by
  obtain ⟨l, found⟩ := FileSystem.find_of_read there
  have other : (Change.step p).pid ≠ pid := by
    rintro rfl
    rw [isUp, Change.pid, removing] at up
    cases up
  constructor
  · rw [isUp, tasks_next other]
    exact up
  · rw [next_step removing]
    simp only [put, Task.step, PidFile.Lookup.step, FileSystem.removeFile_of_find found]
    exact FileSystem.exists?_erase found

theorem query_leftover {ps : Processes} (dead : ps.present 4194305 = false) :
    Program.query.task.run sample silent ps leftover 3 = (leftover, .asking .removing) := by
  have looked : PidFile.Lookup.run ps sample.daemon.pidFile 3 (leftover.files, .looking) =
      (leftover.files, .removing) := PidFile.Lookup.run_of_isStale (isStale_leftover dead)
  rw [Program.task, Task.run_asking, looked]

/-- Process 7 starts while process 9 has found the leftover and is about to remove it. -/
theorem running_relay_unnamed :
    let s := run sample silent { machine := leftover }
      ((.launch 9 .query :: List.replicate 3 (.step 9)) ++
        (.launch 7 .relay :: List.replicate 12 (.step 7)) ++ [.step 9])
    s.isUp 7 = true ∧ s.machine.files.exists? ⟨"pid"⟩ = false := by
  intro s
  let asked : Site := Site.put { machine := leftover } leftover 9 (some (.asking .removing))
  have asked_eq : run sample silent { machine := leftover }
      (.launch 9 .query :: List.replicate 3 (.step 9)) = asked := by
    refine (run_launch rfl (by decide) (by decide) 3).trans ?_
    rw [query_leftover rfl]
  obtain ⟨machine, service, up, named⟩ :=
    @relay_leftover ((asked.put leftover 7 (some Program.relay.task)).processes 7) rfl
  have started : run sample silent asked (.launch 7 .relay :: List.replicate 12 (.step 7)) =
      asked.put machine 7 (some (.relay (.up service))) := by
    refine (run_launch rfl (by decide) (by decide) 12).trans ?_
    rw [show asked.machine = leftover from rfl, up]
  have s_eq : s =
      next sample silent (asked.put machine 7 (some (.relay (.up service)))) (.step 9) := by
    simp only [s]
    rw [run_append, run_append, asked_eq, started]
    rfl
  rw [s_eq]
  exact lost_of_removing rfl rfl named

end Leftover

end Site

end Relay

end EventRelay
