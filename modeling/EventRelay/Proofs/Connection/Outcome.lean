import EventRelay.Proofs.Connection.Handler
import EventRelay.Proofs.EventLog.Opening

namespace EventRelay

namespace Delivery

variable {d : Delivery} {limitMs : Nat} {sink : String}

theorem within_of_le (inTime : d.durationMs ≤ limitMs) : d.within limitMs sink = d.result := by
  rw [within, if_neg (Nat.not_lt_of_le inTime)]

theorem within_of_lt (late : limitMs < d.durationMs) :
    ∃ f : Failure, d.within limitMs sink = .error f ∧ f.category = .delivery ∧
      f.ackMessage = "Delivery via " ++ sink ++ " failed: " ++ "delivery timed out" := by
  rw [within, if_pos late]
  exact ⟨_, rfl, rfl, rfl⟩

end Delivery

namespace Handler

variable {h : Handler} {c : Caller} {text : String} {event : Event}

/-- An acknowledgement that tells what came of the append and of the delivery. -/
structure Reports (logged : Outcome Unit) (delivered : Outcome Recipients)
    (ack : Acknowledgement) : Prop where
  success (recipients : Recipients) : ack.status = .success ∧ ack.recipients = recipients ↔
    logged = .ok () ∧ delivered = .ok recipients
  unlogged (f : Failure) : logged = .error f →
    ack.status = .error ∧ ack.recipients = none ∧ ack.message = f.ackMessage
  undelivered (f : Failure) : logged = .ok () → delivered = .error f →
    ack.status = .error ∧ ack.recipients = none ∧ ack.message = f.ackMessage

theorem reports_error {logged : Outcome Unit} {delivered : Outcome Recipients} {f : Failure}
    (failed : logged = .error f ∨ logged = .ok () ∧ delivered = .error f) (now : Int) :
    Reports logged delivered (.error f.ackMessage now) := by
  refine ⟨fun recipients => ?_, fun g hg => ?_, fun g hl hd => ?_⟩
  · rcases failed with rfl | ⟨rfl, rfl⟩ <;> simp [Acknowledgement.error]
  · rcases failed with rfl | ⟨rfl, -⟩ <;> cases hg
    exact ⟨rfl, rfl, rfl⟩
  · rcases failed with rfl | ⟨-, rfl⟩
    · cases hl
    · cases hd
      exact ⟨rfl, rfl, rfl⟩

theorem reports_acknowledge (c : Caller) (logged : Outcome Unit) (delivered : Outcome Recipients) :
    Reports logged delivered (acknowledge c logged delivered) := by
  cases logged with
  | error f => exact reports_error (.inl rfl) _
  | ok u =>
    cases delivered with
    | error f => exact reports_error (.inr ⟨rfl, rfl⟩) _
    | ok recipients =>
      refine ⟨fun others => ?_, fun f failed => ?_, fun f _ failed => ?_⟩
      · simp [acknowledge, Acknowledgement.success]
      · cases failed
      · cases failed

theorem run_logging (h : Handler) (c : Caller) (event : Event) (entry : LogEntry)
    (fs : FileSystem) :
    let appended := h.log.append entry fs
    let logged : Outcome Unit := appended.map fun _ => ()
    let files := appended.toOption.getD fs
    let delivery := h.sink.deliver ⟨files, c.call⟩ (.ofEvent event)
    ∃ n, h.run c { files := fs, stage := .logging event entry } n =
      { files
        effects := [.logged logged, .delivered (.ofEvent event) delivery.acts]
        stage := .answering
          (acknowledge c logged (delivery.within h.deliveryTimeoutMs h.sink.name)) } := by
  cases appended : h.log.append entry fs with
  | ok fs' =>
    obtain ⟨opened, pending, start, rfl⟩ := EventLog.append_eq_ok appended
    refine ⟨3, ?_⟩
    rw [run, step_logging start]
    rfl
  | error f =>
    have failed : h.step c fs (.logging event entry) =
        { files := fs
          effects := [.logged (.error f)]
          stage := .delivering event (.error f) } := by
      rw [step, EventLog.append_eq_error appended]
    refine ⟨2, ?_⟩
    rw [run, failed]
    rfl

/--
An accepted line is logged if that is possible, its event goes to the sink once either way, and the
acknowledgement reports both. A connection on which the line comes is answered with just that.
-/
theorem accepted_reported (accepted : Event.decode text = .ok event) (h : Handler) (c : Caller)
    (fs : FileSystem) :
    ∃ entry, receive c (.line text) = .logging event entry ∧
      let appended := h.log.append entry fs
      let logged : Outcome Unit := appended.map fun _ => ()
      let files := appended.toOption.getD fs
      let delivery := h.sink.deliver ⟨files, c.call⟩ (.ofEvent event)
      let delivered := delivery.within h.deliveryTimeoutMs h.sink.name
      let shown : List Effect := [.logged logged, .delivered (.ofEvent event) delivery.acts]
      ∃ ack, Reports logged delivered ack ∧
        (∃ n, h.run c { files := fs, stage := receive c (.line text) } n =
          { files, effects := shown, stage := .answering ack }) ∧
        (h.request c = .line text → h.handle c fs =
          { files, effects := shown ++ (reply c ack).1, stage := .ended (reply c ack).2 }) ∧
        (delivery.durationMs ≤ h.deliveryTimeoutMs → delivered = delivery.result) ∧
        (h.deliveryTimeoutMs < delivery.durationMs → ∃ f : Failure, delivered = .error f ∧
          f.category = .delivery ∧ f.ackMessage =
            "Delivery via " ++ h.sink.name ++ " failed: " ++ "delivery timed out") := by
  obtain ⟨entry, received⟩ : ∃ entry, receive c (.line text) = .logging event entry := by
    rw [receive, accepted]
    exact ⟨_, rfl⟩
  refine ⟨entry, received, _, reports_acknowledge c _ _, ?_, fun request => ?_,
    Delivery.within_of_le, Delivery.within_of_lt⟩
  · obtain ⟨n, ran⟩ := h.run_logging c event entry fs
    exact ⟨n, by rw [received, ran]⟩
  · rw [← request] at received
    cases appended : h.log.append entry fs with
    | ok fs' => exact handle_accepted received appended
    | error f => exact handle_unlogged received appended

theorem accepted_reported_of_both_failing :
    let h : Handler :=
      { log := ⟨⟨"log"⟩, .lines, 0, 1⟩
        sink :=
          { name := "mail"
            deliver := fun _ _ => { result := .error (.delivery "mail" "refused" ["a", "b"]) } }
        readTimeoutMs := 1
        deliveryTimeoutMs := 1
        bufferSize := 1 }
    let c : Caller :=
      { name := "client", incoming := { reads := [] }, receivedAt := 0, answeredAt := 0 }
    let fs := FileSystem.empty.put (.child .root "log") .directory
    let text := "\x7b\"source\":\"s\",\"title\":\"A\"\x7d"
    let event : Event := { source := "s", title := "A" }
    let f : Failure := .persistence "log" "read" ["Is a directory (os error 21)"]
    Event.decode text = .ok event ∧
      ∃ n ack, h.run c { files := fs, stage := receive c (.line text) } n =
          { files := fs
            effects := [.logged (.error f), .delivered (.ofEvent event) []]
            stage := .answering ack } ∧
        ack.status = .error ∧ ack.recipients = none ∧ ack.message = f.ackMessage := by
  intro h c fs text event f
  have accepted : Event.decode text = .ok event := by
    have computed : (Event.decode text).toOption = some event := by decide +kernel
    cases decoded : Event.decode text with
    | error f => simp [decoded, Except.toOption] at computed
    | ok e => simpa [decoded, Except.toOption] using computed
  have found : fs.find h.log.path = .ok (.child .root "log", .directory) :=
    (FileSystem.isName_of_plain "log" (by decide)).find rfl
  have failed (entry : LogEntry) : h.log.append entry fs = .error f := by
    simp only [EventLog.append, EventLog.start, EventLog.room, FileSystem.readText,
      FileSystem.read, found]
    rfl
  obtain ⟨entry, -, ack, reports, ⟨n, ran⟩, -⟩ := accepted_reported accepted h c fs
  rw [failed entry] at ran reports
  exact ⟨accepted, n, ack, ran, reports.unlogged f rfl⟩

end Handler

end EventRelay
