import EventRelay.Proofs.Relay.InTurn

/-!
The life of the accept loop. Main statement: what a relay tells is `lifecycle`, only a shutdown ends
the loop, and a pending one ends it before anything else is begun; the teardown closes the listener,
then gives the PID file back, once.
-/

namespace EventRelay

/--
What may become of a connection that is left at a stage: an append that has begun goes on to its
end. The list is what the connection still shows.
-/
inductive Stage.Settles : Stage → Stage → List Effect → Prop
  | still (stage : Stage) : Settles stage stage []
  | opened (event : Event) (entry : LogEntry) (p : EventLog.Pending) :
    Settles (.logging event entry) (.writing event p) []
  | appended (event : Event) (entry : LogEntry) (result : Outcome Unit) :
    Settles (.logging event entry) (.delivering event result) [.logged result]
  | written (event : Event) (p : EventLog.Pending) :
    Settles (.writing event p) (.delivering event (.ok ())) [.logged (.ok ())]

theorem Stage.Settles.trans {a b c : Stage} {shown shown' : List Effect}
    (h : a.Settles b shown) (h' : b.Settles c shown') : a.Settles c (shown ++ shown') := by
  cases h with
  | still => exact h'
  | opened event entry p =>
    cases h' with
    | still => exact .opened event entry p
    | written => exact .appended event entry (.ok ())
  | appended event entry result =>
    cases h'
    exact .appended event entry result
  | written event p =>
    cases h'
    exact .written event p

theorem Stage.Settles.isOver {a b : Stage} {shown : List Effect} (h : a.Settles b shown) :
    b.isOver = a.isOver := by
  cases h <;> rfl

theorem Handler.step_settles {h : Handler} {c : Caller} {fs : FileSystem} {stage : Stage}
    (appending : (∃ event entry, stage = .logging event entry) ∨ stage.holdsLock = true) :
    stage.Settles (h.step c fs stage).stage (h.step c fs stage).effects := by
  cases stage with
  | logging event entry =>
    rw [step]
    split
    · exact .appended event entry _
    · exact .opened event entry _
  | writing event p => exact .written event p
  | waiting | delivering | answering | ended =>
    obtain ⟨_, _, eq⟩ | locked := appending
    · cases eq
    · cases locked

namespace Relay

theorem Slot.appending_of_isAppending {slot : Slot} (h : slot.isAppending = true) :
    (∃ event entry, slot.stage = .logging event entry) ∨ slot.stage.holdsLock = true := by
  unfold Slot.isAppending at h
  split at h
  · next event entry eq => exact .inl ⟨event, entry, eq⟩
  · next event p eq => exact .inr (by rw [eq]; rfl)
  · cases h

def Sign.state? : Sign → Option ServerState
  | .state told => some told
  | _ => none

def Sign.isTeardown : Sign → Bool
  | .listenerClosed | .pidFileReleased _ => true
  | .state _ | .accepted _ => false

/--
What a relay tells until it leaves the loop, which has served `n` connections to their ends, and
another one that was cut off.
-/
def opening (n : Nat) (cut : Bool) : List ServerState :=
  [.starting, .listening] ++ (List.replicate n [.handling, .listening]).flatten ++
    if cut then [.handling] else []

theorem opening_handling (n : Nat) : opening n false ++ [.handling] = opening n true := by
  simp [opening]

theorem opening_listening (n : Nat) :
    opening n true ++ [.listening] = opening (n + 1) false := by
  simp [opening, List.replicate_succ']

def Phase.farewell (result : Outcome Unit) : Phase → List Sign
  | .selecting | .pausing | .serving _ => []
  | .closing => [.state .shuttingDown]
  | .releasing => [.state .shuttingDown, .listenerClosed]
  | .stopped =>
    [.state .shuttingDown, .listenerClosed, .pidFileReleased result, .state .stopped]

namespace Server

variable {s s' : Server} {happening : Happening}

/-- What a relay has told by now: `before` in the loop, and some of its farewell. -/
structure Told (s : Server) (before : List Sign) (result : Outcome Unit) (n : Nat) (cut : Bool) :
    Prop where
  signs : s.signs = before ++ s.phase.farewell result
  states : before.filterMap Sign.state? = opening n cut
  quiet : ∀ sign ∈ before, sign.isTeardown = false
  concurrent : s.service.concurrent = true → n = 0 ∧ cut = false
  serial : s.service.concurrent = false → n + cut.toNat = s.callers.length
  serving : ∀ i, s.phase = .serving i → cut = true
  idle : s.phase = .selecting ∨ s.phase = .pausing → cut = false

theorem told_more {before : List Sign} {result : Outcome Unit} {n m : Nat} {cut cut' : Bool}
    (told : Told s before result n cut) {new : List Sign}
    (running : s.phase.farewell result = []) (running' : s'.phase.farewell result = [])
    (signs : s'.signs = s.signs ++ new) (quiet : ∀ sign ∈ new, sign.isTeardown = false)
    (states : opening n cut ++ new.filterMap Sign.state? = opening m cut')
    (concurrent : s'.service.concurrent = true → m = 0 ∧ cut' = false)
    (serial : s'.service.concurrent = false → m + cut'.toNat = s'.callers.length)
    (serving : ∀ i, s'.phase = .serving i → cut' = true)
    (idle : s'.phase = .selecting ∨ s'.phase = .pausing → cut' = false) :
    Told s' (before ++ new) result m cut' where
  signs := by rw [signs, told.signs, running, running', List.append_nil, List.append_nil]
  states := by rw [List.filterMap_append, told.states, states]
  quiet := by
    intro sign mem
    rcases List.mem_append.mp mem with old | added
    · exact told.quiet sign old
    · exact quiet sign added
  concurrent := concurrent
  serial := serial
  serving := serving
  idle := idle

theorem told_farewell {before : List Sign} {result result' : Outcome Unit} {n : Nat} {cut : Bool}
    (told : Told s before result n cut) (service : s'.service = s.service)
    (callers : s'.callers = s.callers) (left : s'.phase.isLeft = true)
    (signs : s'.signs = before ++ s'.phase.farewell result') :
    Told s' before result' n cut where
  signs := signs
  states := told.states
  quiet := told.quiet
  concurrent := by rw [service]; exact told.concurrent
  serial := by rw [service, callers]; exact told.serial
  serving := fun i eq => by rw [eq] at left; cases left
  idle := fun eq => by rcases eq with eq | eq <;> rw [eq] at left <;> cases left

theorem Told.next {before : List Sign} {result : Outcome Unit} {n : Nat} {cut : Bool}
    (told : Told s before result n cut) (happening : Happening) :
    ∃ before result n cut, Told (s.next happening) before result n cut := by
  have service := s.next_service happening
  cases s.next_turn happening with
  | stays phase signs _ callers =>
    refine ⟨before, result, n, cut, ?_, told.states, told.quiet, ?_, ?_, ?_, ?_⟩
    · rw [signs, phase, told.signs]
    · rw [service]
      exact told.concurrent
    · rw [service, callers]
      exact told.serial
    · rw [phase]
      exact told.serving
    · rw [phase]
      exact told.idle
  | pauses selecting _ phase signs _ callers | resumes selecting phase signs _ callers =>
    have whole : cut = false := told.idle (by simp [selecting])
    refine ⟨before ++ [], result, n, cut, told_more told (by rw [selecting]; rfl)
      (by rw [phase]; rfl) (by rw [signs, List.append_nil]) (fun _ mem => by cases mem)
      (List.append_nil _) ?_ ?_ ?_ fun _ => whole⟩
    · rw [service]
      exact told.concurrent
    · rw [service, callers]
      exact told.serial
    · intro i eq
      rw [phase] at eq
      cases eq
  | takes c _ selecting _ concurrent phase signs _ callers =>
    refine ⟨before ++ [.accepted s.slots.length], result, n, cut, told_more told
      (by rw [selecting]; rfl) (by rw [phase]; rfl) signs (by simp [Sign.isTeardown])
      (List.append_nil _) ?_ ?_ ?_ fun _ => told.idle (.inl selecting)⟩
    · rw [service]
      exact told.concurrent
    · rw [service, concurrent]
      exact fun eq => by cases eq
    · intro i eq
      rw [phase] at eq
      cases eq
  | serves c _ selecting _ serial phase signs _ callers =>
    have whole : cut = false := told.idle (.inl selecting)
    subst whole
    refine ⟨before ++ [.accepted s.slots.length, .state .handling], result, n, true, told_more told
      (by rw [selecting]; rfl) (by rw [phase]; rfl) signs (by simp [Sign.isTeardown])
      (by exact opening_handling n) ?_ ?_ (fun _ _ => rfl) ?_⟩
    · rw [service, serial]
      exact fun eq => by cases eq
    · intro _
      rw [callers, List.length_append, ← told.serial serial]
      rfl
    · rw [phase]
      exact fun eq => by rcases eq with eq | eq <;> cases eq
  | returns i serving phase signs _ callers =>
    have cutOff : cut = true := told.serving i serving
    subst cutOff
    refine ⟨before ++ [.state .listening], result, n + 1, false, told_more told
      (by rw [serving]; rfl) (by rw [phase]; rfl) signs (by simp [Sign.isTeardown])
      (by exact opening_listening n) ?_ ?_ ?_ fun _ => rfl⟩
    · rw [service]
      intro concurrent
      cases (told.concurrent concurrent).2
    · rw [service, callers]
      exact told.serial
    · intro i eq
      rw [phase] at eq
      cases eq
  | leaves entered _ phase signs _ callers =>
    refine ⟨before, result, n, cut, told_farewell told service callers (by rw [phase]; rfl) ?_⟩
    rw [signs, told.signs, phase]
    rcases entered with eq | ⟨i, eq⟩ <;> rw [eq] <;> simp [Phase.farewell]
  | closes closing phase signs _ callers =>
    refine ⟨before, result, n, cut, told_farewell told service callers (by rw [phase]; rfl) ?_⟩
    rw [signs, told.signs, phase, closing]
    simp [Phase.farewell]
  | releases _ releasing phase signs _ _ callers =>
    refine ⟨before, (s.service.pidFile.release s.machine.files).2, n, cut,
      told_farewell told service callers (by rw [phase]; rfl) ?_⟩
    rw [signs, told.signs, phase, releasing]
    simp [Phase.farewell]

def Serving (h : Handler) (fs : FileSystem) (s : Server) (i k : Nat) : Prop :=
  ∃ old last n, old.length = i ∧ k ≤ n ∧ Underway Eq h fs old last n s ∧
    s.phase = .serving i ∧ last.isOver = false ∧ last.abandoned = false

variable {h : Handler} {fs : FileSystem} {i : Nat}

theorem Serving.next {k : Nat} (serving : Serving h fs s i k) (service : s.service.handler = h)
    (free : s.shutdownPending = false) :
    (s.next (.progress i)).phase = .selecting ∨
      Serving h fs (s.next (.progress i)) i (k + 1) := by
  obtain ⟨old, last, n, rfl, enough, u, phase, goesOn, kept⟩ := serving
  rw [next, free, if_neg (by simp)]
  rcases u.progress phase goesOn kept service with
    ⟨-, selecting⟩ | ⟨last', u', phase', goesOn', kept'⟩
  · exact .inl selecting
  · exact .inr ⟨old, last', n + 1, rfl, Nat.succ_le_succ enough, u', phase', goesOn', kept'⟩

theorem progress_of_selecting (selecting : s.phase = .selecting) (i : Nat) :
    (s.next (.progress i)).phase = .selecting := by
  have undriven : s.isDrivenByLoop i = false := by rw [isDrivenByLoop, selecting]; rfl
  have phase : (s.advance i).phase = .selecting := (s.phase_advance i).trans selecting
  rw [next, if_neg (by simp [undriven]), settle_of_idle fun j eq => by rw [phase] at eq; cases eq]
  exact phase

theorem Serving.run (serving : Serving h fs s i 0) (service : s.service.handler = h)
    (free : s.shutdownPending = false) (k : Nat) :
    (s.run (List.replicate k (.progress i))).phase = .selecting ∨
      Serving h fs (s.run (List.replicate k (.progress i))) i k := by
  induction k with
  | zero => exact .inr serving
  | succ k ih =>
    rw [List.replicate_succ', run_concat]
    rcases ih with selecting | serving
    · exact .inl (progress_of_selecting selecting i)
    · refine serving.next ?_ ?_
      · rw [run_service, service]
      · exact free_run free fun asked => by cases List.eq_of_mem_replicate asked

theorem Serving.returns (serving : Serving h fs s i 0) (service : s.service.handler = h)
    (free : s.shutdownPending = false) :
    (s.run (List.replicate 5 (.progress i))).phase = .selecting := by
  rcases serving.run service free 5 with selecting | ⟨old, last, n, -, enough, u, -, goesOn, -⟩
  · exact selecting
  · have ended : last.stage.isOver = true := by
      rw [u.stage, ← Stage.remaining_eq_zero_iff]
      have left :
          (h.serve last.caller (h.serveAll fs (old.map (·.caller))).files n).stage.remaining ≤
            5 - n :=
        h.remaining_serve n
      omega
    exact absurd ended (Bool.eq_false_iff.mp goesOn)

theorem serving_run {service : Service} (serial : service.concurrent = false) (machine : Machine)
    (happenings : List Happening)
    (serving : (run { service, machine } happenings).phase = .serving i) :
    Serving service.handler machine.files (run { service, machine } happenings) i 0 := by
  cases inTurn_run serial machine happenings (by rw [serving]; simp) with
  | resting _ idle => exact absurd serving (idle i)
  | serving old last n u phase goesOn kept =>
    rw [phase] at serving
    cases serving
    exact ⟨old, last, n, rfl, Nat.zero_le n, u, phase, goesOn, kept⟩
  | left old last n u phase _ =>
    rw [serving] at phase
    cases phase

/-- A shutdown is pending, and connection `i` waits for the loop or is abandoned by it. -/
structure Held (s : Server) (i : Nat) (slot : Slot) : Prop where
  found : s.slots[i]? = some slot
  pending : s.shutdownPending = true
  goesOn : slot.isOver = false
  held : s.phase = .serving i ∨ s.phase.isLeft = true ∧ slot.abandoned = true

/-- Whatever else has changed, the connection has only settled. -/
def Settled (s : Server) (i : Nat) (slot : Slot) (s' : Server) : Prop :=
  ∃ slot' new, Held s' i slot' ∧ slot.stage.Settles slot'.stage new ∧
    s'.shown i = s.shown i ++ new

variable {slot : Slot}

theorem settled_of_same {slot' : Slot} (held : Held s' i slot')
    (effects : s'.effects = s.effects) (stage : slot'.stage = slot.stage) :
    Settled s i slot s' := by
  refine ⟨slot', [], held, ?_, ?_⟩
  · rw [stage]
    exact .still _
  · rw [shown_of_effects effects, List.append_nil]

theorem Held.leave (held : Held s i slot) : Settled s i slot s.leave := by
  have held' : Held s.leave i { slot with abandoned := true } :=
    ⟨by simp [Server.leave, sign, held.found], held.pending, held.goesOn, .inr ⟨rfl, rfl⟩⟩
  exact settled_of_same held' rfl rfl

theorem Held.settle (held : Held s i slot) : s.settle = s := by
  rcases held.held with serving | ⟨left, -⟩
  · rw [settle_of_serving serving held.found, held.goesOn]
    rfl
  · refine settle_of_idle fun j eq => ?_
    rw [eq] at left
    cases left

theorem Held.appending (held : Held s i slot) (undriven : s.isDrivenByLoop i = false)
    (busy : slot.isBusy = true) :
    (∃ event entry, slot.stage = .logging event entry) ∨ slot.stage.holdsLock = true := by
  rcases held.held with serving | ⟨-, abandoned⟩
  · apply Slot.appending_of_isAppending
    rw [isDrivenByLoop, serving, held.found] at undriven
    simpa using undriven
  · exact Slot.appending_of_abandoned abandoned busy

theorem Held.advance (held : Held s i slot) {j : Nat} (undriven : s.isDrivenByLoop j = false) :
    Settled s i slot (s.advance j) := by
  unfold Server.advance
  split
  · exact settled_of_same held rfl rfl
  · next other found =>
    split
    · next ready =>
      by_cases own : i = j
      · subst own
        rw [held.found] at found
        cases found
        let moved := s.service.handler.step slot.caller s.machine.files slot.stage
        have settles : slot.stage.Settles moved.stage moved.effects :=
          Handler.step_settles (held.appending undriven (Bool.and_eq_true_iff.mp ready).1)
        refine ⟨{ slot with stage := moved.stage }, _, ⟨?_, held.pending, ?_, held.held⟩, settles,
          (shown_of_new rfl).1⟩
        · exact List.getElem?_set_self (List.getElem?_eq_some_iff.mp held.found).1
        · exact settles.isOver.trans held.goesOn
      · refine ⟨slot, [], ⟨?_, held.pending, held.goesOn, held.held⟩, .still _, ?_⟩
        · exact (List.getElem?_set_ne (Ne.symm own)).trans held.found
        · rw [List.append_nil]
          exact (shown_of_new rfl).2 i own
    · exact settled_of_same held rfl rfl

theorem Held.next (held : Held s i slot) (happening : Happening) :
    Settled s i slot (s.next happening) := by
  have busy : s.phase ≠ .selecting := by
    intro selecting
    rcases held.held with serving | ⟨left, -⟩
    · rw [selecting] at serving
      cases serving
    · rw [selecting] at left
      cases left
  cases happening with
  | shutdown => exact settled_of_same ⟨held.found, rfl, held.goesOn, held.held⟩ rfl rfl
  | connection c | acceptFailure =>
    rw [Server.next]
    split
    · next selecting => exact absurd selecting busy
    · exact settled_of_same held rfl rfl
  | progress j =>
    rw [Server.next]
    split
    · exact held.leave
    · next free =>
      have undriven : s.isDrivenByLoop j = false :=
        Bool.eq_false_iff.mpr fun driven => free ⟨held.pending, driven⟩
      obtain ⟨slot', new, held', settles, shown⟩ := held.advance undriven
      rw [held'.settle]
      exact ⟨slot', new, held', settles, shown⟩
  | turn =>
    have abandoned (idle : ∀ j, s.phase ≠ .serving j) : slot.abandoned = true := by
      rcases held.held with serving | ⟨-, abandoned⟩
      · exact absurd serving (idle i)
      · exact abandoned
    rw [Server.next]
    split
    · next selecting => exact absurd selecting busy
    · rw [held.pending]
      exact held.leave
    · next pausing =>
      rcases held.held with serving | ⟨left, -⟩
      · rw [pausing] at serving
        cases serving
      · rw [pausing] at left
        cases left
    · next closing =>
      have kept := abandoned fun _ eq => by rw [closing] at eq; cases eq
      exact settled_of_same ⟨held.found, held.pending, held.goesOn, .inr ⟨rfl, kept⟩⟩ rfl rfl
    · next releasing =>
      have kept := abandoned fun _ eq => by rw [releasing] at eq; cases eq
      exact settled_of_same ⟨held.found, held.pending, held.goesOn, .inr ⟨rfl, kept⟩⟩ rfl rfl
    · exact settled_of_same held rfl rfl

theorem Held.run (held : Held s i slot) (happenings : List Happening) :
    Settled s i slot (s.run happenings) := by
  induction happenings using List.reverseRecOn with
  | nil => exact settled_of_same held rfl rfl
  | append_singleton happenings happening ih =>
    obtain ⟨slot', new, held', settles, shown⟩ := ih
    obtain ⟨slot'', new', held'', settles', shown'⟩ := held'.next happening
    rw [run_concat]
    refine ⟨slot'', new ++ new', held'', settles.trans settles', ?_⟩
    rw [shown', shown, List.append_assoc]

end Server

end Relay

end EventRelay
