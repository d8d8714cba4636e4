import EventRelay.Cli.Service
import EventRelay.Proofs.PidFile.Ownership

namespace EventRelay.Cli.World

open PidFile (Names)

variable {pid : Nat}

theorem signalTarget_eq (small : pid ≤ Processes.maxPid) : signalTarget pid = pid := by
  rw [Processes.maxPid, Text.maxSigned32] at small
  exact Int.bmod_eq_of_le (by omega) (by omega)

example : signalTarget Text.max32 = -1 := by decide

variable {w : World} {c : Config}

theorem stop_of_running
    (running : PidFile.runningPid w.machine.files w.processes c.daemon.pidFile =
      (w.machine.files, .ok (some pid))) :
    (w.stop c).signals = [signalTarget pid] ∧
      (w.stop c).machine = (w.terminate w.machine (signalTarget pid)).1 := by
  rw [stop, withRunning, running]
  simp only [withFiles]
  rcases w.terminate w.machine (signalTarget pid) with ⟨machine, _ | _ | _⟩ <;> exact ⟨rfl, rfl⟩

theorem stop_of_idle
    (idle : ∀ pid, (PidFile.runningPid w.machine.files w.processes c.daemon.pidFile).2 ≠
      .ok (some pid)) :
    (w.stop c).signals = [] ∧ ∀ terminate, { w with terminate }.stop c = w.stop c := by
  simp only [stop, withRunning]
  rcases looked : PidFile.runningPid w.machine.files w.processes c.daemon.pidFile
    with ⟨files, e | _ | pid⟩
  · exact ⟨rfl, fun _ => rfl⟩
  · exact ⟨rfl, fun _ => rfl⟩
  · exact absurd (congrArg Prod.snd looked) (idle pid)

/--
Either the PID file names another live process: this one is asked to end, once and by the number in
the file, which is positive. Or it names none: then no process is asked to end.
-/
theorem stop_signals_named (w : World) (c : Config) :
    (∃ pid, Names w.machine.files c.daemon.pidFile pid ∧ w.processes.HasOther pid ∧
      (w.stop c).signals = [signalTarget pid] ∧
      (w.stop c).machine = (w.terminate w.machine (signalTarget pid)).1 ∧
      signalTarget pid = pid ∧ 0 < signalTarget pid ∧ signalTarget pid ≠ w.processes.self) ∨
    ((∀ pid, Names w.machine.files c.daemon.pidFile pid → ¬ w.processes.HasOther pid) ∧
      (w.stop c).signals = [] ∧ ∀ terminate, { w with terminate }.stop c = w.stop c) := by
  by_cases running : ∃ pid, Names w.machine.files c.daemon.pidFile pid ∧ w.processes.HasOther pid
  · obtain ⟨pid, named, live⟩ := running
    obtain ⟨signals, machine⟩ := stop_of_running (PidFile.runningPid_of_names named live)
    have ⟨other, positive, small, _⟩ := live
    have target := signalTarget_eq small
    refine .inl ⟨pid, named, live, signals, machine, target, ?_, ?_⟩
    · rw [target]
      exact Int.natCast_pos.mpr positive
    · rw [target]
      exact Int.natCast_inj.not.mpr other
  · have idle := not_exists.mp running
    refine .inr ⟨fun pid named live => idle pid ⟨named, live⟩, stop_of_idle fun pid found => ?_⟩
    exact idle pid (PidFile.runningPid_eq_some_iff.mp found)

end EventRelay.Cli.World
