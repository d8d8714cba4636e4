import EventRelay.Relay.Server

namespace EventRelay.Relay.Server

variable {s s' : Server} {happening : Happening}

def connections (s : Server) : List (Caller × Stage) :=
  s.slots.map fun slot => (slot.caller, slot.stage)

theorem isLogLocked_eq (s : Server) : s.isLogLocked = s.connections.any (·.2.holdsLock) := by
  rw [isLogLocked, connections, List.any_map]
  rfl

inductive Change (s : Server) (happening : Happening) (s' : Server) : Prop
  | none (connections : s'.connections = s.connections) (effects : s'.effects = s.effects)
    (files : s'.machine.files = s.machine.files)
  | accepted (c : Caller) (connections : s'.connections = s.connections ++ [(c, .waiting)])
    (effects : s'.effects = s.effects) (files : s'.machine.files = s.machine.files)
  | advanced (i : Nat) (c : Caller) (stage : Stage) (happened : happening = .progress i)
    (before : s.connections[i]? = some (c, stage))
    (free : ∀ event entry, stage = .logging event entry → s.isLogLocked = false)
    (connections : s'.connections =
      s.connections.set i (c, (s.service.handler.step c s.machine.files stage).stage))
    (effects : s'.effects = s.effects ++
      (s.service.handler.step c s.machine.files stage).effects.map fun e => (i, e))
    (files : s'.machine.files = (s.service.handler.step c s.machine.files stage).files)
  | released (phase : s.phase ≠ .stopped) (stopped : s'.phase = .stopped)
    (connections : s'.connections = s.connections) (effects : s'.effects = s.effects)
    (files : s'.machine.files = (s.service.pidFile.release s.machine.files).1)

structure Move (s : Server) (happening : Happening) (s' : Server) : Prop where
  service : s'.service = s.service
  stays : s.phase = .stopped → s'.phase = .stopped
  change : s.Change happening s'

theorem Move.same (happening : Happening) (s : Server) : s.Move happening s :=
  ⟨rfl, id, .none rfl rfl rfl⟩

theorem move_leave (running : s.phase ≠ .stopped) (happening : Happening) :
    s.Move happening s.leave := by
  refine ⟨rfl, fun stopped => absurd stopped running, .none ?_ rfl rfl⟩
  simp [leave, sign, connections, Function.comp_def]

theorem move_accept (running : s.phase ≠ .stopped) (happening : Happening) (c : Caller) :
    s.Move happening (s.accept c) := by
  unfold accept
  simp only
  split
  · exact ⟨rfl, id, .accepted c (by simp [connections, sign]) rfl rfl⟩
  · exact ⟨rfl, fun stopped => absurd stopped running,
      .accepted c (by simp [connections, sign]) rfl rfl⟩

theorem move_advance (s : Server) (i : Nat) : s.Move (.progress i) (s.advance i) := by
  unfold advance
  split
  · exact .same _ s
  · next slot found =>
    split
    · next ready =>
      refine ⟨rfl, id, .advanced i slot.caller slot.stage rfl ?_ ?_ ?_ rfl rfl⟩
      · simp [connections, found]
      · intro event entry logging
        rw [isReady, logging, Bool.and_eq_true] at ready
        simpa using ready.2
      · simp [connections, List.map_set]
    · exact .same _ s

theorem Move.settle (move : s.Move happening s') : s.Move happening s'.settle := by
  unfold Server.settle
  split
  · next i serving =>
    split
    · have running : s.phase ≠ .stopped := by
        intro stopped
        rw [move.stays stopped] at serving
        cases serving
      refine ⟨move.service, fun stopped => absurd stopped running, ?_⟩
      cases move.change with
      | none connections effects files => exact .none connections effects files
      | accepted c connections effects files => exact .accepted c connections effects files
      | advanced i c stage happened before free connections effects files =>
        exact .advanced i c stage happened before free connections effects files
      | released _ stopped =>
        rw [stopped] at serving
        cases serving
    · exact move
  · exact move

theorem next_move (s : Server) (happening : Happening) : s.Move happening (s.next happening) := by
  cases happening with
  | shutdown => exact ⟨rfl, id, .none rfl rfl rfl⟩
  | connection c =>
    rw [next]
    split
    · next selecting =>
      have running : s.phase ≠ .stopped := by rw [selecting]; simp
      split
      · exact move_leave running _
      · exact move_accept running _ c
    · exact .same _ s
  | acceptFailure =>
    rw [next]
    split
    · next selecting =>
      have running : s.phase ≠ .stopped := by rw [selecting]; simp
      split
      · exact move_leave running _
      · exact ⟨rfl, fun stopped => absurd stopped running, .none rfl rfl rfl⟩
    · exact .same _ s
  | progress i =>
    rw [next]
    split
    · next driven =>
      refine move_leave ?_ _
      intro stopped
      have serving := driven.2
      rw [isDrivenByLoop, stopped] at serving
      cases serving
    · exact (s.move_advance i).settle
  | turn =>
    rw [next]
    split
    · next selecting =>
      split
      · exact move_leave (by rw [selecting]; simp) _
      · exact .same _ s
    · next i serving =>
      split
      · exact move_leave (by rw [serving]; simp) _
      · exact .same _ s
    · next pausing =>
      have running : s.phase ≠ .stopped := by rw [pausing]; simp
      exact ⟨rfl, fun stopped => absurd stopped running, .none rfl rfl rfl⟩
    · next closing =>
      have running : s.phase ≠ .stopped := by rw [closing]; simp
      exact ⟨rfl, fun stopped => absurd stopped running, .none rfl rfl rfl⟩
    · next releasing =>
      exact ⟨rfl, fun _ => rfl, .released (by rw [releasing]; simp) rfl rfl rfl rfl⟩
    · exact .same _ s

end EventRelay.Relay.Server
