import EventRelay.Proofs.Acknowledgement
import EventRelay.Proofs.Connection.Course
import EventRelay.Proofs.Connection.Framing
import EventRelay.Proofs.Event.Wire
import EventRelay.Proofs.Failure

namespace EventRelay

namespace Handler

variable {h : Handler} {c : Caller}

/-- The stream holds a request that is the text of a valid event. -/
def Accepts (h : Handler) (c : Caller) (e : Event) : Prop :=
  ∃ line text, c.incoming.Offers h.readTimeoutMs h.bufferSize line ∧
    (Request.withoutReturn line).toString? = some text ∧ Event.decode text = .ok e

theorem request_of_offers {line : Bytes}
    (offered : c.incoming.Offers h.readTimeoutMs h.bufferSize line) :
    h.request c = .ofLine line := by
  cases offered with
  | line complete =>
    obtain ⟨first, short, more, bytes⟩ := Incoming.completes_iff.mp complete
    exact Request.ofArrival_line bytes first short
  | rest closes =>
    obtain ⟨none, short, whole⟩ := Incoming.closesBehind_iff.mp closes
    rw [request, whole, Request.ofArrival_rest none short, Request.ofRest_closed]

theorem offers_of_request {text : String} (request : h.request c = .line text) :
    ∃ line, c.incoming.Offers h.readTimeoutMs h.bufferSize line ∧
      Request.ofLine line = .line text := by
  have framed := Request.framed_ofArrival h.bufferSize (c.incoming.within h.readTimeoutMs)
  rw [Handler.request] at request
  generalize Request.ofArrival _ _ = r at framed request
  cases framed with
  | line bytes first short =>
    exact ⟨_, .line (Incoming.completes_iff.mpr ⟨first, short, _, bytes⟩), request⟩
  | tooLarge => cases request
  | rest none short =>
    generalize whole : c.incoming.within h.readTimeoutMs = a at none short request
    obtain ⟨rest, ending⟩ := a
    cases ending with
    | late => cases request
    | closed =>
      rw [Request.ofRest_closed] at request
      exact ⟨_, .rest (Incoming.closesBehind_iff.mpr ⟨none, short, whole⟩), request⟩
    | failed invalid cause => cases invalid <;> cases request

theorem accepts_iff {e : Event} :
    h.Accepts c e ↔ ∃ text, h.request c = .line text ∧ Event.decode text = .ok e := by
  constructor
  · rintro ⟨line, text, offered, written, decoded⟩
    refine ⟨text, ?_, decoded⟩
    rw [request_of_offers offered, Request.ofLine_eq_line_iff]
    refine ⟨written, Bool.eq_false_iff.mpr fun blank => ?_⟩
    rw [Event.decode_of_blank blank] at decoded
    cases decoded
  · rintro ⟨text, request, decoded⟩
    obtain ⟨line, offered, taken⟩ := offers_of_request request
    exact ⟨line, text, offered, (Request.ofLine_eq_line_iff.mp taken).1, decoded⟩

theorem receive_rejected (rejected : ∀ e, ¬ h.Accepts c e) :
    (∃ why, h.request c = .none why) ∨ ∃ f : Failure, f.category = .protocol ∧
      receive c (h.request c) = .answering (.error f.ackMessage c.answeredAt) := by
  generalize hr : h.request c = r
  cases r with
  | none why => exact .inl ⟨why, rfl⟩
  | refused f => exact .inr ⟨f, Request.category_of_refused hr, rfl⟩
  | line text =>
    cases decoded : Event.decode text with
    | ok e => exact absurd (accepts_iff.mpr ⟨text, hr, decoded⟩) (rejected e)
    | error f =>
      refine .inr ⟨f, Event.category_of_decode decoded, ?_⟩
      rw [receive, decoded]

end Handler

/-- The other end takes the reply; it may be gone when the connection is shut down. -/
def Caller.TakesReply (c : Caller) : Prop := c.replyFault = none ∨ c.replyFault = some .shutdown

namespace Handler

variable {h : Handler} {c : Caller} {ack : Acknowledgement}

theorem written_reply (c : Caller) (ack : Acknowledgement) :
    Effect.written (reply c ack).1 = "" ∨ Effect.written (reply c ack).1 = ack.encode := by
  unfold reply
  split <;> simp [Effect.written]

theorem reply_of_takesReply (takes : c.TakesReply) (ack : Acknowledgement) :
    Effect.written (reply c ack).1 = ack.encode ∧ (reply c ack).2 = .ok (.responded ack) := by
  unfold reply
  rcases takes with none | gone
  · rw [none]
    simp [Effect.written]
  · rw [gone]
    simp [Effect.written]

theorem handle_logging {event : Event} {entry : LogEntry}
    (received : receive c (h.request c) = .logging event entry) (fs : FileSystem) :
    ∃ ack, Effect.written (h.handle c fs).effects = Effect.written (reply c ack).1 ∧
      (h.handle c fs).stage = .ended (reply c ack).2 := by
  rw [handle_received received]
  exact ⟨_, by simp [Effect.written], rfl⟩

theorem handle_given (given : ∀ why, h.request c ≠ .none why) (fs : FileSystem) :
    ∃ ack, Effect.written (h.handle c fs).effects = Effect.written (reply c ack).1 ∧
      (h.handle c fs).stage = .ended (reply c ack).2 := by
  cases hr : h.request c with
  | none why => exact absurd hr (given why)
  | refused f =>
    rw [handle_refused (show receive c (h.request c) = .answering _ by rw [hr]; rfl)]
    exact ⟨_, rfl, rfl⟩
  | line text =>
    cases decoded : Event.decode text with
    | error f =>
      have received : receive c (h.request c) = .answering (.error f.ackMessage c.answeredAt) := by
        rw [hr, receive, decoded]
      rw [handle_refused received]
      exact ⟨_, rfl, rfl⟩
    | ok e =>
      have received : receive c (h.request c) = .logging e
          { receivedAt := c.receivedAt, raw := String.ofList (Text.trimEnd text.toList) } := by
        rw [hr, receive, decoded]
      exact handle_logging received fs

theorem abandoned_iff {why : Abandonment} {fs : FileSystem} :
    (h.handle c fs).stage = .ended (.ok (.abandoned why)) ↔ h.request c = .none why := by
  constructor
  · intro abandoned
    by_cases given : ∀ why, h.request c ≠ .none why
    · obtain ⟨ack, -, stage⟩ := handle_given given fs
      rw [stage] at abandoned
      unfold reply at abandoned
      split at abandoned <;> cases abandoned
    · obtain ⟨other, none⟩ : ∃ other, h.request c = .none other := by simpa using given
      rw [handle_none none] at abandoned
      cases abandoned
      exact none
  · intro none
    rw [handle_none none]

theorem unfinished_of_none {why : Abandonment} (none : h.request c = .none why) :
    (∃ line, c.incoming.Completes h.readTimeoutMs h.bufferSize line ∧ Request.IsBlank line) ∨
    (∀ line, ¬ c.incoming.Completes h.readTimeoutMs h.bufferSize line) ∧
      c.incoming.Unfinished h.readTimeoutMs h.bufferSize why := by
  have framed := Request.framed_ofArrival h.bufferSize (c.incoming.within h.readTimeoutMs)
  rw [Handler.request] at none
  generalize Request.ofArrival _ _ = r at framed none
  cases framed with
  | line bytes first short =>
    exact .inl ⟨_, Incoming.completes_iff.mpr ⟨first, short, _, bytes⟩,
      (Request.ofLine_eq_none none).1⟩
  | tooLarge => cases none
  | rest unfed short =>
    refine .inr ⟨?_, ?_⟩
    · intro line complete
      obtain ⟨-, -, more, bytes⟩ := Incoming.completes_iff.mp complete
      rw [bytes] at unfed
      exact unfed (List.mem_append_right _ List.mem_cons_self)
    · generalize whole : c.incoming.within h.readTimeoutMs = a at unfed short none
      obtain ⟨rest, ending⟩ := a
      cases ending with
      | late =>
        cases none
        exact .late (congrArg Arrival.ending whole)
      | closed =>
        rw [Request.ofRest_closed] at none
        obtain ⟨blank, rfl⟩ := Request.ofLine_eq_none none
        exact .closed (Incoming.closesBehind_iff.mpr ⟨unfed, short, whole⟩) blank
      | failed invalid cause =>
        cases invalid <;> cases none
        exact .failed (congrArg Arrival.ending whole)

/--
A stream without a valid event leaves the files as they are, does not reach the log or the sink, and
brings nothing back or one line with the acknowledgement of an error.
-/
theorem handle_rejected (rejected : ∀ e, ¬ h.Accepts c e) (fs : FileSystem) :
    (h.handle c fs).files = fs ∧
    (∀ result, .logged result ∉ (h.handle c fs).effects) ∧
    (∀ message acts, .delivered message acts ∉ (h.handle c fs).effects) ∧
    (Effect.written (h.handle c fs).effects = "" ∨
      ∃ line ack, Effect.written (h.handle c fs).effects = line ∧ Text.IsLine line ∧
        Acknowledgement.decode line = .ok ack ∧ ack.status = .error ∧ ack.recipients = none ∧
        "Invalid data".toList <+: ack.message.toList) := by
  rcases receive_rejected rejected with ⟨why, none⟩ | ⟨f, protocol, received⟩
  · rw [handle_none none]
    exact ⟨rfl, fun _ => List.not_mem_nil, fun _ _ => List.not_mem_nil, .inl rfl⟩
  · rw [handle_refused received]
    have shown := (reply_effects c (.error f.ackMessage c.answeredAt)).subset
    refine ⟨rfl, ?_, ?_, ?_⟩
    · intro result logged
      simpa using shown logged
    · intro message acts delivered
      simpa using shown delivered
    · refine (written_reply c _).imp id fun written => ?_
      exact ⟨_, _, written, Acknowledgement.isLine_encode _, Acknowledgement.decode_encode _, rfl, rfl,
        Failure.prefix_ackMessage_protocol protocol⟩

theorem handle_rejected_of_nameless :
    let e : Event := { source := " ", title := "disk full", timestamp := some 0 }
    let h : Handler :=
      { log := ⟨⟨"/log"⟩, .lines, 0, 1⟩
        sink := { name := "mail", deliver := fun _ _ => { result := .ok none } }
        readTimeoutMs := 1
        deliveryTimeoutMs := 1
        bufferSize := (Bytes.ofString e.toValue.text).length }
    let c : Caller :=
      { name := "client"
        incoming := { reads := [.bytes (.ofString (e.toValue.text ++ "\n"))] }
        receivedAt := 0
        answeredAt := 0 }
    let fs := FileSystem.empty.put (.ofNames ["log"]) (.file [97, 10])
    (∀ e, ¬ h.Accepts c e) ∧ (h.handle c fs).files = fs := by
  intro e h c fs
  have time : e.TimeFits := by
    intro t ht
    cases ht
    decide
  have request : h.request c = .line e.toValue.text :=
    Request.ofArrival_text rfl e.feed_not_mem_text e.return_not_mem_text e.isBlankText_text
      (Nat.le_refl _)
  have rejected : ∀ e, ¬ h.Accepts c e := by
    intro e' accepted
    obtain ⟨text, taken, decoded⟩ := accepts_iff.mp accepted
    rw [request] at taken
    cases taken
    have nameless : e.validate = .error (.protocol "missing program_name" []) := by
      rw [Event.validate, if_pos (by decide +kernel)]
    rw [Event.decode_of_trimList e.trimList_text time, nameless] at decoded
    cases decoded
  exact ⟨rejected, (handle_rejected rejected fs).1⟩

/--
A line that is complete in time and not too long gets exactly one line back, unless there is nothing
but blanks in it; and a connection is given up only for such a line, or for want of any.
-/
theorem complete_line_answered (takes : c.TakesReply) (fs : FileSystem) :
    (∀ line, c.incoming.Completes h.readTimeoutMs h.bufferSize line →
      ((∃ ack : Acknowledgement, Effect.written (h.handle c fs).effects = ack.encode ∧
        Text.IsLine ack.encode ∧ (h.handle c fs).stage = .ended (.ok (.responded ack))) ↔
          ¬ Request.IsBlank line)) ∧
    ∀ why, (h.handle c fs).stage = .ended (.ok (.abandoned why)) →
      Effect.written (h.handle c fs).effects = "" ∧
      ((∃ line, c.incoming.Completes h.readTimeoutMs h.bufferSize line ∧ Request.IsBlank line) ∨
        (∀ line, ¬ c.incoming.Completes h.readTimeoutMs h.bufferSize line) ∧
          c.incoming.Unfinished h.readTimeoutMs h.bufferSize why) := by
  refine ⟨?_, ?_⟩
  · intro line complete
    have request := request_of_offers (.line complete)
    constructor
    · rintro ⟨ack, -, -, responded⟩ blank
      rw [Request.ofLine_blank blank] at request
      rw [handle_none request] at responded
      cases responded
    · intro shown
      have given : ∀ why, h.request c ≠ .none why := by
        intro why none
        rw [request] at none
        exact shown (Request.ofLine_eq_none none).1
      obtain ⟨ack, written, stage⟩ := handle_given given fs
      obtain ⟨replied, outcome⟩ := reply_of_takesReply takes ack
      exact ⟨ack, written.trans replied, ack.isLine_encode, by rw [stage, outcome]⟩
  · intro why abandoned
    have none := abandoned_iff.mp abandoned
    refine ⟨?_, unfinished_of_none none⟩
    rw [handle_none none]
    rfl

theorem complete_line_answered_of_junk :
    let h : Handler :=
      { log := ⟨⟨"/log"⟩, .lines, 0, 1⟩
        sink := { name := "mail", deliver := fun _ _ => { result := .ok none } }
        readTimeoutMs := 1
        deliveryTimeoutMs := 1
        bufferSize := 1 }
    let c : Caller :=
      { name := "client", incoming := { reads := [.bytes [120], .wait 1, .bytes [10]] }
        receivedAt := 0, answeredAt := 0 }
    c.TakesReply ∧ c.incoming.Completes h.readTimeoutMs h.bufferSize [120] ∧
      ∃ ack : Acknowledgement,
        Effect.written (h.handle c .empty).effects = ack.encode ∧ Text.IsLine ack.encode ∧
          (h.handle c .empty).stage = .ended (.ok (.responded ack)) := by
  intro h c
  have takes : c.TakesReply := .inl rfl
  have complete : c.incoming.Completes h.readTimeoutMs h.bufferSize [120] :=
    ⟨by decide, by decide, c.incoming.reads, [], [], rfl, rfl, by simp [c, Read.isFailure],
      by decide⟩
  have shown : ¬ Request.IsBlank [120] := by
    rintro ⟨text, written, blank⟩
    have letter : Request.withoutReturn [120] = Bytes.ofString "x" := by decide +kernel
    rw [letter, Bytes.toString?_ofString] at written
    cases written
    cases blank
  exact ⟨takes, complete, ((complete_line_answered takes .empty).1 [120] complete).mpr shown⟩

/-- A client that sends an empty line and waits for the answer does not get one. -/
theorem blank_line_unanswered :
    let h : Handler :=
      { log := ⟨⟨"/log"⟩, .lines, 0, 1⟩
        sink := { name := "mail", deliver := fun _ _ => { result := .ok none } }
        readTimeoutMs := 1
        deliveryTimeoutMs := 1
        bufferSize := 1 }
    let c : Caller :=
      { name := "client", incoming := { reads := [.bytes [10]], staysOpen := true }
        receivedAt := 0, answeredAt := 0 }
    c.TakesReply ∧ c.incoming.Completes h.readTimeoutMs h.bufferSize [] ∧
      h.handle c .empty =
        { files := .empty, effects := [], stage := .ended (.ok (.abandoned .closedEarly)) } := by
  intro h c
  have complete : c.incoming.Completes h.readTimeoutMs h.bufferSize [] :=
    ⟨by decide, by decide, c.incoming.reads, [], [], rfl, rfl, by simp [c, Read.isFailure],
      by decide⟩
  refine ⟨.inl rfl, complete, ?_⟩
  exact handle_none ((request_of_offers (.line complete)).trans
    (Request.ofLine_blank Request.isBlank_nil))

end Handler

end EventRelay
