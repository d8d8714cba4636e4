import EventRelay.Proofs.EventLog.Rotation
import EventRelay.Proofs.PidFile
import EventRelay.Relay.Startup

namespace EventRelay

namespace Relay

variable {c : Config} {sink : Sink} {ps : Processes}

def Service.ofConfig (c : Config) (sink : Sink) (ps : Processes) : Service :=
  { listener := ⟨c.server.listenAddress, ps.self⟩
    pidFile := ⟨c.daemon.pidFile, ps.self⟩
    handler := .ofConfig c.server (.ofConfig c.log) sink
    concurrent := c.server.concurrent }

def Startup.Sound (c : Config) (sink : Sink) (ps : Processes) (fs : FileSystem) : Startup → Prop
  | .binding log => log = .ofConfig c.log
  | .claiming log claim => log = .ofConfig c.log ∧ claim.Sound ps c.daemon.pidFile fs
  | .up s => s = .ofConfig c sink ps ∧ s.pidFile.Recorded fs
  | _ => True

theorem Startup.Sound.step {m : Machine} {startup : Startup}
    (h : startup.Sound c sink ps m.files) :
    (Startup.step c sink ps m startup).2.Sound c sink ps
      (Startup.step c sink ps m startup).1.files := by
  unfold Startup.step
  split
  · trivial
  · trivial
  · trivial
  · trivial
  · split
    · trivial
    · next created => exact (EventLog.create_ok created).1
  · split
    · trivial
    · exact ⟨h, trivial⟩
  · obtain ⟨rfl, rfl, recorded⟩ := h
    exact ⟨rfl, recorded⟩
  · trivial
  · exact ⟨h.1, h.2.step⟩
  · exact h
  · trivial

theorem Startup.Sound.run {m : Machine} {startup : Startup} (h : startup.Sound c sink ps m.files)
    (steps : Nat) :
    (Startup.run c sink ps steps (m, startup)).2.Sound c sink ps
      (Startup.run c sink ps steps (m, startup)).1.files := by
  induction steps generalizing m startup with
  | zero => exact h
  | succ steps ih => exact ih h.step

theorem start_ok {m started : Machine} {service : Service}
    (h : start c sink ps m = (started, .ok service)) :
    service = .ofConfig c sink ps ∧ service.pidFile.Recorded started.files := by
  have sound : Startup.Sound c sink ps m.files (.checking .looking) := trivial
  have reached := sound.run Startup.length
  unfold start at h
  rcases hr : Startup.run c sink ps Startup.length (m, .checking .looking) with ⟨m', startup⟩
  rw [hr] at h reached
  cases startup <;> cases h
  exact reached

namespace Startup

theorem run_up (m : Machine) (s : Service) (n : Nat) :
    run c sink ps n (m, .up s) = (m, .up s) := by
  induction n with
  | zero => rfl
  | succ n ih => exact ih

theorem run_failed (m : Machine) (f : Failure) (n : Nat) :
    run c sink ps n (m, .failed f) = (m, .failed f) := by
  induction n with
  | zero => rfl
  | succ n ih => exact ih

theorem run_opening (sink : Sink) (ps : Processes) {m : Machine} {opened made files : FileSystem}
    {log : EventLog}
    (created : EventLog.create c.log m.files = (opened, .ok log))
    (usable : m.unusable c.server.listenAddress = none)
    (named : m.nameless c.server.listenAddress = none)
    (unbound : m.listeners.any (·.address == c.server.listenAddress) = false)
    (vacant : opened.exists? c.daemon.pidFile = false)
    (prepared : opened.makeParent c.daemon.pidFile "create pid file directory" = (made, .ok ()))
    (recorded : made.write c.daemon.pidFile (.ofString (PidFile.text ps.self)) = .ok files)
    (n : Nat) :
    run c sink ps (n + 7) (m, .opening) =
      ({ m with files, listeners := ⟨c.server.listenAddress, ps.self⟩ :: m.listeners },
        .up (.ofConfig c sink ps)) := by
  obtain ⟨rfl, -⟩ := EventLog.create_ok created
  let address := c.server.listenAddress
  let bound : Machine :=
    { m with files := opened, listeners := ⟨address, ps.self⟩ :: m.listeners }
  have opening : step c sink ps m .opening =
      ({ m with files := opened }, .binding (.ofConfig c.log)) := by
    simp only [step, created]
  have binding : step c sink ps { m with files := opened } (.binding (.ofConfig c.log)) =
      (bound, .claiming (.ofConfig c.log) (.checking .looking)) := by
    simp only [step, Machine.listen, Machine.bind, usable, named, unbound]
    rfl
  have checking : step c sink ps bound (.claiming (.ofConfig c.log) (.checking .looking)) =
      (bound, .claiming (.ofConfig c.log) (.checking (.found (.ok none)))) := by
    simp only [step, PidFile.Claim.step, PidFile.Lookup.step, bound, vacant]
    rfl
  have preparing : step c sink ps bound (.claiming (.ofConfig c.log) .preparing) =
      ({ bound with files := made }, .claiming (.ofConfig c.log) .recording) := by
    simp only [step, PidFile.Claim.step, bound, prepared]
  have recording : step c sink ps { bound with files := made }
      (.claiming (.ofConfig c.log) .recording) = ({ bound with files },
        .claiming (.ofConfig c.log) (.settled (.ok ⟨c.daemon.pidFile, ps.self⟩))) := by
    simp only [step, PidFile.Claim.step, recorded]
  rw [run, opening, run, binding, run, checking, run]
  change run c sink ps (n + 3) (bound, .claiming _ .preparing) = _
  rw [run, preparing, run, recording, run]
  exact run_up _ _ n

theorem run_stale (sink : Sink) {m : Machine} {files : FileSystem}
    (stale : PidFile.IsStale ps m.files c.daemon.pidFile)
    (removed : m.files.removeFile c.daemon.pidFile = .ok files) (n : Nat) :
    run c sink ps (n + 5) (m, .checking .looking) =
      run c sink ps n ({ m with files }, .opening) := by
  obtain ⟨named, looking, reading, judging⟩ := PidFile.Lookup.steps_of_isStale stale
  have looked : step c sink ps m (.checking .looking) = (m, .checking .reading) := by
    simp only [step, looking]
  have read : step c sink ps m (.checking .reading) = (m, .checking (.judging named)) := by
    simp only [step, reading]
  have judged : step c sink ps m (.checking (.judging named)) = (m, .checking .removing) := by
    simp only [step, judging]
  have cleared : step c sink ps m (.checking .removing) =
      ({ m with files }, .checking (.found (.ok none))) := by
    simp only [step, PidFile.Lookup.step, removed]
  rw [run, looked, run, read, run, judged, run, cleared, run]
  rfl

end Startup

theorem start_up (sink : Sink) (ps : Processes) {m : Machine} {opened made files : FileSystem}
    {log : EventLog}
    (vacant : m.files.exists? c.daemon.pidFile = false)
    (created : EventLog.create c.log m.files = (opened, .ok log))
    (usable : m.unusable c.server.listenAddress = none)
    (named : m.nameless c.server.listenAddress = none)
    (unbound : m.listeners.any (·.address == c.server.listenAddress) = false)
    (vacant' : opened.exists? c.daemon.pidFile = false)
    (prepared : opened.makeParent c.daemon.pidFile "create pid file directory" = (made, .ok ()))
    (recorded : made.write c.daemon.pidFile (.ofString (PidFile.text ps.self)) = .ok files) :
    start c sink ps m =
      ({ m with files, listeners := ⟨c.server.listenAddress, ps.self⟩ :: m.listeners },
        .ok (.ofConfig c sink ps)) := by
  have looked : Startup.step c sink ps m (.checking .looking) =
      (m, .checking (.found (.ok none))) := by
    simp only [Startup.step, PidFile.Lookup.step, vacant]
    rfl
  have up : Startup.run c sink ps Startup.length (m, .checking .looking) =
      ({ m with files, listeners := ⟨c.server.listenAddress, ps.self⟩ :: m.listeners },
        .up (.ofConfig c sink ps)) := by
    change Startup.run c sink ps 15 _ = _
    rw [Startup.run, looked, Startup.run]
    exact Startup.run_opening sink ps created usable named unbound vacant' prepared recorded 6
  unfold start
  rw [up]

end Relay

end EventRelay
