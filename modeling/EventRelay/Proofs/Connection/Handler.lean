import EventRelay.Connection.Handler
import EventRelay.Proofs.Connection.LineReader

namespace EventRelay

theorem EventLog.append_eq_ok {log : EventLog} {e : LogEntry} {fs fs' : FileSystem}
    (h : log.append e fs = .ok fs') :
    ∃ opened pending, log.start e fs = .ok (opened, pending) ∧ pending.finish opened = fs' := by
  unfold append at h
  rcases hs : log.start e fs with f | ⟨opened, pending⟩ <;> rw [hs] at h
  · cases h
  · cases h
    exact ⟨opened, pending, rfl, rfl⟩

theorem EventLog.append_eq_error {log : EventLog} {e : LogEntry} {fs : FileSystem} {f : Failure}
    (h : log.append e fs = .error f) : log.start e fs = .error f := by
  unfold append at h
  rcases hs : log.start e fs with f' | ⟨opened, pending⟩ <;> rw [hs] at h
  · cases h
    rfl
  · cases h

namespace Handler

variable {h : Handler} {c : Caller}

def request (h : Handler) (c : Caller) : Request :=
  .ofArrival h.bufferSize (c.incoming.within h.readTimeoutMs)

def entryOf? (h : Handler) (c : Caller) : Option LogEntry :=
  match receive c (h.request c) with
  | .logging _ entry => some entry
  | _ => none

theorem entryOf?_of_accepted {event : Event} {entry : LogEntry}
    (accepted : receive c (h.request c) = .logging event entry) : h.entryOf? c = some entry := by
  rw [entryOf?, accepted]

theorem step_waiting (fs : FileSystem) :
    h.step c fs .waiting = { files := fs, stage := receive c (h.request c) } := by
  rw [step, Request.read_eq, request]

theorem step_logging {fs opened : FileSystem} {event : Event} {entry : LogEntry}
    {pending : EventLog.Pending} (start : h.log.start entry fs = .ok (opened, pending)) :
    h.step c fs (.logging event entry) = { files := opened, stage := .writing event pending } := by
  rw [step, start]

theorem step_quiet {stage : Stage} (notLogging : ∀ event entry, stage ≠ .logging event entry)
    (notWriting : stage.holdsLock = false) (fs : FileSystem) :
    (h.step c fs stage).files = fs ∧ (h.step c fs stage).stage.holdsLock = false ∧
      .logged (.ok ()) ∉ (h.step c fs stage).effects := by
  cases stage with
  | waiting =>
    refine ⟨rfl, ?_, List.not_mem_nil⟩
    rw [step_waiting]
    unfold receive
    split
    · rfl
    · rfl
    · split <;> rfl
  | logging event entry => exact absurd rfl (notLogging event entry)
  | writing event pending => cases notWriting
  | delivering event logged => exact ⟨rfl, rfl, by simp [step]⟩
  | answering ack =>
    refine ⟨rfl, rfl, ?_⟩
    change _ ∉ (reply c ack).1
    unfold reply
    split <;> simp
  | ended outcome => exact ⟨rfl, rfl, List.not_mem_nil⟩

theorem handle_accepted {fs fs' : FileSystem} {event : Event} {entry : LogEntry}
    (received : receive c (h.request c) = .logging event entry)
    (appended : h.log.append entry fs = .ok fs') :
    h.handle c fs =
      let message := Message.ofEvent event
      let delivery := h.sink.deliver ⟨fs', c.call⟩ message
      let ack := acknowledge c (.ok ()) (delivery.within h.deliveryTimeoutMs h.sink.name)
      { files := fs'
        effects := [.logged (.ok ()), .delivered message delivery.acts] ++ (reply c ack).1
        stage := .ended (reply c ack).2 } := by
  obtain ⟨opened, pending, start, rfl⟩ := EventLog.append_eq_ok appended
  change h.run c _ 5 = _
  rw [run, step_waiting, received, run, step_logging start]
  rfl

theorem run_ended (fs : FileSystem) (shown : List Effect) (outcome : Outcome HandleOutcome)
    (n : Nat) :
    h.run c { files := fs, effects := shown, stage := .ended outcome } n =
      { files := fs, effects := shown, stage := .ended outcome } := by
  induction n with
  | zero => rfl
  | succ n ih =>
    rw [run]
    change h.run c { files := fs, effects := shown ++ [], stage := .ended outcome } n = _
    rw [List.append_nil, ih]

theorem handle_unlogged {fs : FileSystem} {event : Event} {entry : LogEntry} {f : Failure}
    (received : receive c (h.request c) = .logging event entry)
    (failed : h.log.append entry fs = .error f) :
    h.handle c fs =
      let message := Message.ofEvent event
      let delivery := h.sink.deliver ⟨fs, c.call⟩ message
      let ack := acknowledge c (.error f) (delivery.within h.deliveryTimeoutMs h.sink.name)
      { files := fs
        effects := [.logged (.error f), .delivered message delivery.acts] ++ (reply c ack).1
        stage := .ended (reply c ack).2 } := by
  have step_logging_failed : h.step c fs (.logging event entry) =
      { files := fs, effects := [.logged (.error f)], stage := .delivering event (.error f) } := by
    rw [step, EventLog.append_eq_error failed]
  change h.run c _ 5 = _
  rw [run, step_waiting, received, run, step_logging_failed]
  exact run_ended _ _ _ 1

theorem handle_received {event : Event} {entry : LogEntry}
    (received : receive c (h.request c) = .logging event entry) (fs : FileSystem) :
    h.handle c fs =
      let appended := h.log.append entry fs
      let logged : Outcome Unit := appended.map fun _ => ()
      let files := appended.toOption.getD fs
      let message := Message.ofEvent event
      let delivery := h.sink.deliver ⟨files, c.call⟩ message
      let ack := acknowledge c logged (delivery.within h.deliveryTimeoutMs h.sink.name)
      { files
        effects := [.logged logged, .delivered message delivery.acts] ++ (reply c ack).1
        stage := .ended (reply c ack).2 } := by
  cases appended : h.log.append entry fs with
  | ok fs' => exact handle_accepted received appended
  | error f => exact handle_unlogged received appended

theorem handle_refused {fs : FileSystem} {ack : Acknowledgement}
    (received : receive c (h.request c) = .answering ack) :
    h.handle c fs =
      { files := fs, effects := (reply c ack).1, stage := .ended (reply c ack).2 } := by
  change h.run c _ 5 = _
  rw [run, step_waiting, received]
  exact run_ended _ _ _ 3

theorem handle_none {fs : FileSystem} {why : Abandonment} (none : h.request c = .none why) :
    h.handle c fs = { files := fs, stage := .ended (.ok (.abandoned why)) } := by
  change h.run c _ 5 = _
  rw [run, step_waiting, none]
  exact run_ended _ _ _ 4

end Handler

end EventRelay
