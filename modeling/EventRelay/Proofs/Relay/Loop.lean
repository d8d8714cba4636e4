import EventRelay.Proofs.Relay.Moves

/-!
What a happening makes of the accept loop: of its phase, of what it tells and of the connections
that it takes in. Main statement: each happening that is not passed over takes the loop from one
phase to the next, and tells just that.
-/

namespace EventRelay.Relay

def Happening.caller? : Happening → Option Caller
  | .connection c => some c
  | _ => none

def Phase.isLeft : Phase → Bool
  | .closing | .releasing | .stopped => true
  | .selecting | .pausing | .serving _ => false

namespace Server

variable {first s s' : Server} {happening : Happening}

def callers (s : Server) : List Caller := s.slots.map (·.caller)

@[simp] theorem callers_leave (s : Server) : s.leave.callers = s.callers := by
  simp [callers, leave, sign, Function.comp_def]

@[simp] theorem callers_accept (s : Server) (c : Caller) :
    (s.accept c).callers = s.callers ++ [c] := by
  unfold accept
  simp only
  split <;> simp [callers, sign]

theorem advance_of_rest {i : Nat} (rest : ∀ slot, s.slots[i]? = some slot → slot.isBusy = false) :
    s.advance i = s := by
  unfold advance
  split
  · rfl
  · next slot found =>
    rw [isReady, rest slot found, Bool.false_and]
    rfl

theorem advance_of_ready {i : Nat} {slot : Slot} (found : s.slots[i]? = some slot)
    (ready : s.isReady slot = true) :
    s.advance i =
      let step := s.service.handler.step slot.caller s.machine.files slot.stage
      { s with
        machine := { s.machine with files := step.files }
        slots := s.slots.set i { slot with stage := step.stage }
        effects := s.effects ++ step.effects.map fun e => (i, e) } := by
  unfold advance
  rw [found]
  simp only [ready, if_true]

@[simp] theorem phase_advance (s : Server) (i : Nat) : (s.advance i).phase = s.phase := by
  unfold advance
  split
  · rfl
  · split <;> rfl

@[simp] theorem signs_advance (s : Server) (i : Nat) : (s.advance i).signs = s.signs := by
  unfold advance
  split
  · rfl
  · split <;> rfl

@[simp] theorem listeners_advance (s : Server) (i : Nat) :
    (s.advance i).machine.listeners = s.machine.listeners := by
  unfold advance
  split
  · rfl
  · split <;> rfl

@[simp] theorem pending_advance (s : Server) (i : Nat) :
    (s.advance i).shutdownPending = s.shutdownPending := by
  unfold advance
  split
  · rfl
  · split <;> rfl

@[simp] theorem callers_advance (s : Server) (i : Nat) : (s.advance i).callers = s.callers := by
  unfold advance
  split
  · rfl
  · next slot found =>
    split
    · obtain ⟨inside, rfl⟩ := List.getElem?_eq_some_iff.mp found
      have same := List.set_getElem_self (show i < s.callers.length by simpa [callers] using inside)
      rw [callers, List.map_set]
      simpa [callers] using same
    · rfl

theorem settle_of_idle (idle : ∀ i, s.phase ≠ .serving i) : s.settle = s := by
  unfold settle
  split
  · next serving => exact absurd serving (idle _)
  · rfl

theorem settle_of_serving {i : Nat} {slot : Slot} (serving : s.phase = .serving i)
    (found : s.slots[i]? = some slot) :
    s.settle =
      if slot.isOver then sign { s with phase := .selecting } (.state .listening) else s := by
  unfold settle
  rw [serving]
  simp only [found, Option.any_some]

/-- What the loop makes of a happening. -/
inductive Turn (s : Server) (happening : Happening) (s' : Server) : Prop
  | stays (phase : s'.phase = s.phase) (signs : s'.signs = s.signs)
    (listeners : s'.machine.listeners = s.machine.listeners) (callers : s'.callers = s.callers)
  | pauses (selecting : s.phase = .selecting) (free : s.shutdownPending = false)
    (phase : s'.phase = .pausing) (signs : s'.signs = s.signs)
    (listeners : s'.machine.listeners = s.machine.listeners) (callers : s'.callers = s.callers)
  | resumes (pausing : s.phase = .pausing) (phase : s'.phase = .selecting)
    (signs : s'.signs = s.signs) (listeners : s'.machine.listeners = s.machine.listeners)
    (callers : s'.callers = s.callers)
  | takes (c : Caller) (happened : happening = .connection c) (selecting : s.phase = .selecting)
    (free : s.shutdownPending = false) (concurrent : s.service.concurrent = true)
    (phase : s'.phase = .selecting) (signs : s'.signs = s.signs ++ [.accepted s.slots.length])
    (listeners : s'.machine.listeners = s.machine.listeners)
    (callers : s'.callers = s.callers ++ [c])
  | serves (c : Caller) (happened : happening = .connection c) (selecting : s.phase = .selecting)
    (free : s.shutdownPending = false) (serial : s.service.concurrent = false)
    (phase : s'.phase = .serving s.slots.length)
    (signs : s'.signs = s.signs ++ [.accepted s.slots.length, .state .handling])
    (listeners : s'.machine.listeners = s.machine.listeners)
    (callers : s'.callers = s.callers ++ [c])
  | returns (i : Nat) (serving : s.phase = .serving i) (phase : s'.phase = .selecting)
    (signs : s'.signs = s.signs ++ [.state .listening])
    (listeners : s'.machine.listeners = s.machine.listeners) (callers : s'.callers = s.callers)
  | leaves (entered : s.phase = .selecting ∨ ∃ i, s.phase = .serving i)
    (pending : s.shutdownPending = true) (phase : s'.phase = .closing)
    (signs : s'.signs = s.signs ++ [.state .shuttingDown])
    (listeners : s'.machine.listeners = s.machine.listeners) (callers : s'.callers = s.callers)
  | closes (closing : s.phase = .closing) (phase : s'.phase = .releasing)
    (signs : s'.signs = s.signs ++ [.listenerClosed])
    (listeners : s'.machine.listeners = s.machine.listeners.filter (· != s.service.listener))
    (callers : s'.callers = s.callers)
  | releases (happened : happening = .turn) (releasing : s.phase = .releasing)
    (phase : s'.phase = .stopped)
    (signs : s'.signs = s.signs ++
      [.pidFileReleased (s.service.pidFile.release s.machine.files).2, .state .stopped])
    (files : s'.machine.files = (s.service.pidFile.release s.machine.files).1)
    (listeners : s'.machine.listeners = s.machine.listeners) (callers : s'.callers = s.callers)

theorem turn_same (s : Server) (happening : Happening) : Turn s happening s :=
  .stays rfl rfl rfl rfl

theorem turn_leave (entered : s.phase = .selecting ∨ ∃ i, s.phase = .serving i)
    (pending : s.shutdownPending = true) (happening : Happening) : Turn s happening s.leave :=
  .leaves entered pending rfl rfl rfl s.callers_leave

theorem turn_accept (selecting : s.phase = .selecting) (free : s.shutdownPending = false)
    (c : Caller) : Turn s (.connection c) (s.accept c) := by
  unfold accept
  simp only
  split
  · next concurrent =>
    exact .takes c rfl selecting free concurrent selecting rfl rfl (by simp [callers, sign])
  · next serial =>
    exact .serves c rfl selecting free (Bool.eq_false_iff.mpr serial) rfl
      (by simp [sign]) rfl (by simp [callers, sign])

theorem next_connection (selecting : s.phase = .selecting) (free : s.shutdownPending = false)
    (c : Caller) : s.next (.connection c) = s.accept c := by
  rw [next, selecting]
  simp only [free]
  rfl

theorem turn_advance (s : Server) (i : Nat) : Turn s (.progress i) (s.advance i).settle := by
  unfold settle
  split
  · next j serving =>
    rw [phase_advance] at serving
    split
    · exact .returns j serving rfl (by simp [sign]) (by simp [sign]) (callers_advance s i)
    · exact .stays (phase_advance s i) (signs_advance s i) (listeners_advance s i)
        (callers_advance s i)
  · exact .stays (phase_advance s i) (signs_advance s i) (listeners_advance s i)
      (callers_advance s i)

theorem next_turn (s : Server) (happening : Happening) : Turn s happening (s.next happening) := by
  cases happening with
  | shutdown => exact .stays rfl rfl rfl rfl
  | connection c =>
    rw [next]
    split
    · next selecting =>
      split
      · next pending => exact turn_leave (.inl selecting) pending _
      · next free => exact turn_accept selecting (Bool.eq_false_iff.mpr free) c
    · exact turn_same s _
  | acceptFailure =>
    rw [next]
    split
    · next selecting =>
      split
      · next pending => exact turn_leave (.inl selecting) pending _
      · next free => exact .pauses selecting (Bool.eq_false_iff.mpr free) rfl rfl rfl rfl
    · exact turn_same s _
  | progress i =>
    rw [next]
    split
    · next driven =>
      have serving := driven.2
      rw [isDrivenByLoop, Bool.and_eq_true, beq_iff_eq] at serving
      exact turn_leave (.inr ⟨i, serving.1⟩) driven.1 _
    · exact turn_advance s i
  | turn =>
    rw [next]
    split
    · next selecting =>
      split
      · next pending => exact turn_leave (.inl selecting) pending _
      · exact turn_same s _
    · next i serving =>
      split
      · next pending => exact turn_leave (.inr ⟨i, serving⟩) pending _
      · exact turn_same s _
    · next pausing => exact .resumes pausing rfl rfl rfl rfl
    · next closing => exact .closes closing rfl rfl rfl rfl
    · next releasing => exact .releases rfl releasing rfl (by simp [sign]) rfl rfl rfl
    · exact turn_same s _

theorem next_service (s : Server) (happening : Happening) :
    (s.next happening).service = s.service := (s.next_move happening).service

theorem pending_settle (s : Server) : s.settle.shutdownPending = s.shutdownPending := by
  unfold settle
  split
  · split <;> rfl
  · rfl

theorem pending_next (s : Server) (happening : Happening) :
    (s.next happening).shutdownPending = true ↔
      s.shutdownPending = true ∨ happening = .shutdown := by
  cases happening with
  | shutdown => simp [next]
  | connection c =>
    simp only [next, reduceCtorEq, or_false]
    split
    · split
      · rfl
      · unfold accept
        simp only
        split <;> rfl
    · rfl
  | acceptFailure =>
    simp only [next, reduceCtorEq, or_false]
    split
    · split <;> rfl
    · rfl
  | progress i =>
    simp only [next, reduceCtorEq, or_false]
    split
    · rfl
    · rw [pending_settle, pending_advance]
  | turn =>
    simp only [next, reduceCtorEq, or_false]
    split
    · split <;> rfl
    · split <;> rfl
    · rfl
    · rfl
    · rfl
    · rfl

theorem run_append (s : Server) (earlier later : List Happening) :
    s.run (earlier ++ later) = (s.run earlier).run later := List.foldl_append

@[simp] theorem run_nil (s : Server) : s.run [] = s := rfl

@[simp] theorem run_cons (s : Server) (happening : Happening) (happenings : List Happening) :
    s.run (happening :: happenings) = (s.next happening).run happenings := rfl

theorem run_service (s : Server) (happenings : List Happening) :
    (s.run happenings).service = s.service := by
  induction happenings generalizing s with
  | nil => rfl
  | cons happening happenings ih => exact (ih _).trans (s.next_service happening)

theorem pending_run (s : Server) (happenings : List Happening) :
    (s.run happenings).shutdownPending = true ↔
      s.shutdownPending = true ∨ .shutdown ∈ happenings := by
  induction happenings generalizing s with
  | nil => simp
  | cons happening happenings ih =>
    rw [run_cons, ih, pending_next, List.mem_cons, or_assoc, eq_comm (a := happening)]

theorem free_run {happenings : List Happening} (free : s.shutdownPending = false)
    (quiet : .shutdown ∉ happenings) : (s.run happenings).shutdownPending = false := by
  rw [Bool.eq_false_iff, ne_eq, pending_run]
  rintro (pending | asked)
  · rw [free] at pending
    cases pending
  · exact quiet asked

theorem pending_of_isLeft_first {happenings : List Happening}
    (first_left : first.phase.isLeft = true → first.shutdownPending = true)
    (left : (first.run happenings).phase.isLeft = true) :
    (first.run happenings).shutdownPending = true := by
  induction happenings generalizing first with
  | nil => exact first_left left
  | cons happening happenings ih =>
    refine ih (fun left => (pending_next first happening).mpr (.inl ?_)) left
    cases first.next_turn happening with
    | stays phase _ _ _ =>
      rw [phase] at left
      exact first_left left
    | leaves _ pending _ _ _ _ => exact pending
    | closes closing _ _ _ _ => exact first_left (by rw [closing]; rfl)
    | releases _ releasing _ _ _ _ _ => exact first_left (by rw [releasing]; rfl)
    | pauses _ _ phase _ _ _ | resumes _ phase _ _ _ | takes _ _ _ _ _ phase _ _ _
    | serves _ _ _ _ _ phase _ _ _ | returns _ _ phase _ _ _ =>
      rw [phase] at left
      cases left

theorem pending_of_isLeft {service : Service} {machine : Machine} {happenings : List Happening}
    (left : (run { service, machine } happenings).phase.isLeft = true) :
    (run { service, machine } happenings).shutdownPending = true :=
  pending_of_isLeft_first (fun left => by cases left) left

theorem isLeft_of_quiet {service : Service} {machine : Machine} {happenings : List Happening}
    (quiet : .shutdown ∉ happenings) :
    (run { service, machine } happenings).phase.isLeft = false := by
  rw [Bool.eq_false_iff]
  intro left
  have pending := pending_of_isLeft left
  rw [free_run rfl quiet] at pending
  cases pending

theorem callers_run (s : Server) (happenings : List Happening) :
    ∃ taken, (s.run happenings).callers = s.callers ++ taken ∧
      taken.Sublist (happenings.filterMap Happening.caller?) := by
  induction happenings generalizing s with
  | nil => exact ⟨[], (List.append_nil _).symm, List.Sublist.refl _⟩
  | cons happening happenings ih =>
    obtain ⟨taken, callers, sublist⟩ := ih (s.next happening)
    have wider : (happenings.filterMap Happening.caller?).Sublist
        ((happening :: happenings).filterMap Happening.caller?) :=
      (List.sublist_cons_self _ _).filterMap _
    rw [run_cons, callers]
    cases s.next_turn happening with
    | takes c happened _ _ _ _ _ _ added | serves c happened _ _ _ _ _ _ added =>
      subst happened
      refine ⟨c :: taken, by rw [added, List.append_assoc]; rfl, ?_⟩
      exact sublist.cons_cons c
    | stays _ _ _ same | pauses _ _ _ _ _ same | resumes _ _ _ _ same | returns _ _ _ _ _ same
    | leaves _ _ _ _ _ same | closes _ _ _ _ same | releases _ _ _ _ _ _ same =>
      exact ⟨taken, by rw [same], sublist.trans wider⟩

theorem callers_next_of_pending (pending : s.shutdownPending = true) (happening : Happening) :
    (s.next happening).callers = s.callers := by
  cases s.next_turn happening with
  | takes _ _ _ free | serves _ _ _ free =>
    rw [pending] at free
    cases free
  | stays _ _ _ same | pauses _ _ _ _ _ same | resumes _ _ _ _ same | returns _ _ _ _ _ same
  | leaves _ _ _ _ _ same | closes _ _ _ _ same | releases _ _ _ _ _ _ same => exact same

theorem callers_run_of_pending (pending : s.shutdownPending = true) (happenings : List Happening) :
    (s.run happenings).callers = s.callers := by
  induction happenings generalizing s with
  | nil => rfl
  | cons happening happenings ih =>
    rw [run_cons, ih ((pending_next s happening).mpr (.inl pending)),
      callers_next_of_pending pending]

theorem exists_release {happenings : List Happening} (running : first.phase ≠ .stopped)
    (stopped : (first.run happenings).phase = .stopped) :
    ∃ earlier later, happenings = earlier ++ .turn :: later ∧
      (first.run earlier).phase = .releasing := by
  induction happenings generalizing first with
  | nil => exact absurd stopped running
  | cons happening happenings ih =>
    by_cases now : (first.next happening).phase = .stopped
    · cases first.next_turn happening with
      | releases happened releasing _ _ _ _ _ =>
        subst happened
        exact ⟨[], happenings, rfl, releasing⟩
      | stays phase _ _ _ =>
        rw [phase] at now
        exact absurd now running
      | pauses _ _ phase _ _ _ | resumes _ phase _ _ _ | takes _ _ _ _ _ phase _ _ _
      | serves _ _ _ _ _ phase _ _ _ | returns _ _ phase _ _ _ | leaves _ _ phase _ _ _
      | closes _ phase _ _ _ =>
        rw [phase] at now
        cases now
    · obtain ⟨earlier, later, rfl, releasing⟩ := ih now stopped
      exact ⟨happening :: earlier, later, rfl, releasing⟩

end Server

end EventRelay.Relay
