import EventRelay.Proofs.Connection.Steps
import EventRelay.Proofs.EventLog.Verdict

/-!
What a connection shows from some stage on. Main statements: with a sink that answers to the message
alone, the files matter only as far as the log can be added to; and the times at which a connection
is served matter only to the times that it shows.
-/

namespace EventRelay

/-- Nothing but the message counts for what the sink does. -/
def Sink.Uniform (sink : Sink) : Prop :=
  ∀ o o' message, sink.deliver o message = sink.deliver o' message

namespace Handler

variable {h : Handler} {c c' : Caller} {fs fs' : FileSystem} {stage : Stage}

/-- What a connection at some stage still shows if it is alone with the files. -/
def toCome (h : Handler) (c : Caller) (fs : FileSystem) (stage : Stage) : List Effect :=
  (h.run c { files := fs, stage } 5).effects

theorem toCome_waiting : h.toCome c fs .waiting = (h.handle c fs).effects := rfl

theorem effects_run (s : Step) (n : Nat) :
    (h.run c s n).effects =
      s.effects ++ (h.run c { files := s.files, stage := s.stage } n).effects := by
  induction n generalizing s with
  | zero => exact (List.append_nil _).symm
  | succ n ih =>
    rw [run, ih, run, ih (Step.mk _ ([] ++ _) _), List.nil_append, List.append_assoc]

theorem remaining_run (s : Step) (n : Nat) :
    (h.run c s n).stage.remaining ≤ s.stage.remaining - n := by
  induction n generalizing s with
  | zero => exact Nat.le_refl _
  | succ n ih =>
    have first := h.remaining_step (c := c) s.files s.stage
    have later := ih { h.step c s.files s.stage with
      effects := s.effects ++ (h.step c s.files s.stage).effects }
    rw [run]
    simp only at later ⊢
    omega

theorem toCome_step (h : Handler) (c : Caller) (fs : FileSystem) (stage : Stage) :
    h.toCome c fs stage = (h.step c fs stage).effects ++
      h.toCome c (h.step c fs stage).files (h.step c fs stage).stage := by
  have ended : (h.run c { files := fs, stage } 5).stage.isOver = true := by
    rw [← Stage.remaining_eq_zero_iff]
    have := h.remaining_run (c := c) { files := fs, stage } 5
    have : stage.remaining ≤ 5 := by cases stage <;> simp [Stage.remaining]
    simp only at *
    omega
  calc
    h.toCome c fs stage = (h.run c { files := fs, stage } (5 + 1)).effects := by
      rw [run_add, run_of_isOver ended, toCome]
    _ = (h.run c { files := fs, stage } (1 + 5)).effects := by rw [Nat.add_comm]
    _ = _ := by
      rw [run_add, effects_run]
      rfl

@[simp] theorem toCome_ended (outcome : Outcome HandleOutcome) :
    h.toCome c fs (.ended outcome) = [] := rfl

theorem toCome_answering (ack : Acknowledgement) :
    h.toCome c fs (.answering ack) = (reply c ack).1 := by
  rw [toCome_step]
  exact List.append_nil _

theorem toCome_delivering (event : Event) (logged : Outcome Unit) :
    h.toCome c fs (.delivering event logged) =
      let delivery := h.sink.deliver ⟨fs, c.call⟩ (Message.ofEvent event)
      let delivered := delivery.within h.deliveryTimeoutMs h.sink.name
      .delivered (Message.ofEvent event) delivery.acts ::
        (reply c (acknowledge c logged delivered)).1 := by
  rw [toCome_step, step, toCome_answering]
  rfl

section Uniform

variable (uniform : h.sink.Uniform)
include uniform

theorem toCome_delivering_uniform (fs fs' : FileSystem) (event : Event) (logged : Outcome Unit) :
    h.toCome c fs (.delivering event logged) = h.toCome c fs' (.delivering event logged) := by
  rw [toCome_delivering, toCome_delivering, uniform ⟨fs, c.call⟩ ⟨fs', c.call⟩]

theorem toCome_writing (fs fs' : FileSystem) (event : Event) (p : EventLog.Pending) :
    h.toCome c fs (.writing event p) =
      .logged (.ok ()) :: h.toCome c fs' (.delivering event (.ok ())) := by
  rw [toCome_step, step, toCome_delivering_uniform uniform _ fs']
  rfl

theorem toCome_logging (fs fs' : FileSystem) (event : Event) (entry : LogEntry) :
    h.toCome c fs (.logging event entry) =
      .logged (h.log.verdict fs) :: h.toCome c fs' (.delivering event (h.log.verdict fs)) := by
  rw [toCome_step, step, ← h.log.map_start entry fs]
  rcases h.log.start entry fs with f | ⟨opened, p⟩
  · rw [toCome_delivering_uniform uniform _ fs']
    rfl
  · rw [toCome_writing uniform _ fs']
    rfl

theorem step_toCome (same : h.log.verdict fs = h.log.verdict fs') (stage : Stage) :
    (h.step c fs stage).effects ++ h.toCome c fs' (h.step c fs stage).stage =
      h.toCome c fs' stage := by
  cases stage with
  | waiting => exact (toCome_step h c fs' .waiting).symm
  | logging event entry =>
    rw [toCome_logging uniform fs' fs', ← same, step, ← h.log.map_start entry fs]
    rcases h.log.start entry fs with f | ⟨opened, p⟩
    · rfl
    · exact toCome_writing uniform fs' fs' event p
  | writing event p => exact (toCome_writing uniform fs' fs' event p).symm
  | delivering event logged =>
    rw [toCome_delivering, step, toCome_answering, uniform ⟨fs, c.call⟩ ⟨fs', c.call⟩]
    rfl
  | answering ack =>
    rw [toCome_answering]
    exact List.append_nil _
  | ended outcome => rfl

end Uniform

end Handler

def Caller.untimed (c : Caller) : Caller := { c with receivedAt := 0, answeredAt := 0, call := 0 }

def LogEntry.untimed (e : LogEntry) : LogEntry := { e with receivedAt := 0 }

/-- Two effects that are the same but for the time in an acknowledgement. -/
inductive Effect.SameButTime : Effect → Effect → Prop
  | logged (result : Outcome Unit) : SameButTime (.logged result) (.logged result)
  | delivered (message : Message) (acts : List Act) :
    SameButTime (.delivered message acts) (.delivered message acts)
  | replied (ack : Acknowledgement) (timestamp : String) :
    SameButTime (.replied ack.encode) (.replied { ack with timestamp }.encode)
  | hungUp : SameButTime .hungUp .hungUp

theorem Effect.messages_sameButTime {effects effects' : List Effect}
    (same : List.Forall₂ SameButTime effects effects') : messages effects = messages effects' := by
  induction same with
  | nil => rfl
  | cons first _ ih =>
    unfold messages at ih ⊢
    cases first with
    | logged | replied | hungUp => exact ih
    | delivered message acts => exact congrArg (message :: ·) ih

namespace Handler

variable {h : Handler} {c c' : Caller} {fs : FileSystem}

theorem acknowledge_untimed (c c' : Caller) (logged : Outcome Unit)
    (delivered : Outcome Recipients) :
    ∃ timestamp, acknowledge c' logged delivered =
      { acknowledge c logged delivered with timestamp } := by
  refine ⟨Calendar.render c'.answeredAt, ?_⟩
  rcases logged with f | ⟨⟩
  · rfl
  · cases delivered <;> rfl

section Untimed

variable (same : c.untimed = c'.untimed)
include same

theorem request_untimed : h.request c = h.request c' := by
  have incoming : c.untimed.incoming = c'.untimed.incoming := congrArg Caller.incoming same
  change c.incoming = c'.incoming at incoming
  rw [request, request, incoming]

theorem reply_untimed (ack : Acknowledgement) (timestamp : String) :
    List.Forall₂ Effect.SameButTime (reply c ack).1 (reply c' { ack with timestamp }).1 := by
  have fault : c.untimed.replyFault = c'.untimed.replyFault := congrArg Caller.replyFault same
  change c.replyFault = c'.replyFault at fault
  have replied := Effect.SameButTime.replied ack timestamp
  rw [reply, reply, ← fault]
  split
  · exact .nil
  · exact .cons replied .nil
  · exact .cons replied .nil
  · exact .cons replied (.cons .hungUp .nil)

theorem handle_untimed (uniform : h.sink.Uniform) (fs : FileSystem) :
    List.Forall₂ Effect.SameButTime (h.handle c fs).effects (h.handle c' fs).effects := by
  rw [← toCome_waiting, ← toCome_waiting, toCome_step, step_waiting, toCome_step h c', step_waiting,
    ← request_untimed same]
  change List.Forall₂ _ (h.toCome c fs _) (h.toCome c' fs _)
  have refused (f : Failure) : List.Forall₂ Effect.SameButTime
      (h.toCome c fs (.answering (.error f.ackMessage c.answeredAt)))
      (h.toCome c' fs (.answering (.error f.ackMessage c'.answeredAt))) := by
    rw [toCome_answering, toCome_answering]
    exact reply_untimed same _ _
  unfold receive
  cases h.request c with
  | none why => exact .nil
  | refused f => exact refused f
  | line text =>
    simp only
    rcases Event.decode text with f | event
    · exact refused f
    · simp only
      rw [toCome_logging uniform fs fs, toCome_logging uniform fs fs, toCome_delivering,
        toCome_delivering, uniform ⟨fs, c'.call⟩ ⟨fs, c.call⟩]
      obtain ⟨timestamp, ack⟩ := acknowledge_untimed c c' (h.log.verdict fs)
        ((h.sink.deliver ⟨fs, c.call⟩ (Message.ofEvent event)).within h.deliveryTimeoutMs h.sink.name)
      simp only [ack]
      exact .cons (.logged _) (.cons (.delivered _ _) (reply_untimed same _ timestamp))

theorem entryOf?_untimed :
    (h.entryOf? c).map LogEntry.untimed = (h.entryOf? c').map LogEntry.untimed := by
  unfold entryOf? receive
  rw [← request_untimed same]
  cases h.request c with
  | none why => rfl
  | refused f => rfl
  | line text =>
    simp only
    rcases Event.decode text with f | event <;> rfl

end Untimed

def entryIn? (h : Handler) (c : Caller) : Effect → Option LogEntry
  | .logged (.ok ()) => h.entryOf? c
  | _ => none

def recorded (h : Handler) (fs : FileSystem) (c : Caller) : List LogEntry :=
  (h.handle c fs).effects.filterMap (h.entryIn? c)

theorem entryIn?_untimed (same : c.untimed = c'.untimed) {e e' : Effect}
    (alike : e.SameButTime e') :
    (h.entryIn? c e).map LogEntry.untimed = (h.entryIn? c' e').map LogEntry.untimed := by
  cases alike with
  | logged result =>
    rcases result with f | ⟨⟩
    · rfl
    · exact entryOf?_untimed same
  | delivered | replied | hungUp => rfl

theorem recorded_of_accepted (uniform : h.sink.Uniform) {event : Event} {entry : LogEntry}
    (received : receive c (h.request c) = .logging event entry)
    (takes : h.log.verdict fs = .ok ()) : h.recorded fs c = [entry] := by
  have shown : (h.handle c fs).effects =
      .logged (.ok ()) :: h.toCome c fs (.delivering event (.ok ())) := by
    rw [← toCome_waiting, toCome_step, step_waiting, received]
    simp only
    rw [toCome_logging uniform fs fs, takes]
    rfl
  rw [recorded, shown, toCome_delivering, List.filterMap_cons, List.filterMap_cons, entryIn?,
    entryOf?_of_accepted received]
  simp only [entryIn?, List.cons.injEq, true_and, List.filterMap_eq_nil_iff]
  intro e mem
  have := (reply_effects c _).subset mem
  rcases List.mem_cons.mp this with rfl | last
  · rfl
  · rw [List.mem_singleton.mp last]

theorem recorded_untimed (uniform : h.sink.Uniform) (same : c.untimed = c'.untimed) :
    (h.recorded fs c).map LogEntry.untimed = (h.recorded fs c').map LogEntry.untimed := by
  have alike := handle_untimed (h := h) same uniform fs
  unfold recorded
  generalize (h.handle c fs).effects = effects, (h.handle c' fs).effects = effects' at alike
  rw [List.map_filterMap, List.map_filterMap]
  induction alike with
  | nil => rfl
  | cons first _ ih =>
    rw [List.filterMap_cons, List.filterMap_cons, entryIn?_untimed same first, ih]

end Handler

end EventRelay
