import EventRelay.Proofs.Client
import EventRelay.Proofs.Connection.Framing
import EventRelay.Proofs.Connection.Handler
import EventRelay.Proofs.Event.Wire
import EventRelay.Proofs.EventLog.Rotation

namespace EventRelay

variable {h : Handler} {caller : Caller} {e : Event} {now : Int}

def Event.entry (e : Event) (now receivedAt : Int) : LogEntry :=
  { receivedAt, raw := (e.stamped now).toValue.text }

theorem Event.render_entry (e : Event) (now receivedAt : Int) :
    (e.entry now receivedAt).render =
      "[" ++ Calendar.render receivedAt ++ "] " ++ e.encode now := by
  have same := LogEntry.flatten_eq_self (e.stamped now).trimList_text
    (e.stamped now).feed_not_mem_text (e.stamped now).return_not_mem_text
  rw [LogEntry.render_eq_body, LogEntry.body, encode, ← String.append_assoc]
  rw [show (e.entry now receivedAt).raw = (e.stamped now).toValue.text from rfl, same]
  rfl

theorem Handler.request_encode {early late : List Read}
    (reads : caller.incoming.reads = early ++ late)
    (arrives : Arrives early h.readTimeoutMs (.ofString (e.encode now)))
    (short : (Bytes.ofString (e.stamped now).toValue.text).length ≤ h.bufferSize) :
    h.request caller = .line (e.stamped now).toValue.text := by
  obtain ⟨more, bytes⟩ := arrives.bytes_ofReads caller.incoming.staysOpen late
  rw [← reads] at bytes
  exact Request.ofArrival_text bytes (e.stamped now).feed_not_mem_text
    (e.stamped now).return_not_mem_text (e.stamped now).isBlankText_text short

theorem Handler.receive_text (named : Text.isBlankText e.source = false)
    (time : (e.stamped now).TimeFits) :
    receive caller (.line (e.stamped now).toValue.text) =
      .logging (e.stamped now) (e.entry now caller.receivedAt) := by
  have decoded : Event.decode (e.stamped now).toValue.text = .ok (e.stamped now) :=
    Event.decode_text named time
  unfold receive
  simp only [decoded, Event.trimEnd_text, String.ofList_toList]
  rfl

def Handler.peer (h : Handler) (caller : Caller) (fs : FileSystem) (ending : ReplyEnd) : Peer :=
  { reply := .ofString (Effect.written (h.handle caller fs).effects), ending }

/--
A client sends an event that names its source, and the first address that takes its connection is
that of a relay. The line comes in time, in whatever pieces, and is not too long; its entry can be
logged and the sink takes the message.
-/
theorem send_confirmed_once {c : RelayClient} {net : Network} {address : String}
    {refused others : List String} {fs fs' : FileSystem} {early late : List Read}
    {recipients : Recipients} {ending : ReplyEnd}
    (named : Text.isBlankText e.source = false) (time : (e.stamped now).TimeFits)
    (awaits : c.awaitAck = true) (addresses : c.addresses = refused ++ address :: others)
    (unreachable : ∀ a ∈ refused, ∀ peer, net a ≠ .established peer)
    (reached : net address = .established (h.peer caller fs ending))
    (reads : caller.incoming.reads = early ++ late)
    (arrives : Arrives early h.readTimeoutMs (.ofString (e.encode now)))
    (short : (Bytes.ofString (e.stamped now).toValue.text).length ≤ h.bufferSize)
    (replies : caller.replyFault = none)
    (appended : h.log.append (e.entry now caller.receivedAt) fs = .ok fs')
    (delivered : (h.sink.deliver ⟨fs', caller.call⟩ (Message.ofEvent e)).within
      h.deliveryTimeoutMs h.sink.name = .ok recipients) :
    ∃ acts line ack,
      (h.handle caller fs).effects =
        [.logged (.ok ()), .delivered (Message.ofEvent e) acts, .replied line, .hungUp] ∧
      (h.handle caller fs).files = fs' ∧
      (e.entry now caller.receivedAt).render =
        "[" ++ Calendar.render caller.receivedAt ++ "] " ++ e.encode now ∧
      Text.IsLine line ∧ Acknowledgement.decode line = .ok ack ∧
      ack.status = .success ∧ ack.recipients = recipients ∧
      c.send net e now =
        ({ attempts := refused ++ [address], written := [(address, e.encode now)] },
          .ok { address, acknowledgement := some ack }) ∧
      Receipt.confirmed { address, acknowledgement := some ack } = true := by
  have received : Handler.receive caller (h.request caller) =
      .logging (e.stamped now) (e.entry now caller.receivedAt) := by
    rw [Handler.request_encode reads arrives short, Handler.receive_text named time]
  have handled := Handler.handle_accepted received appended
  have same : Message.ofEvent (e.stamped now) = Message.ofEvent e := rfl
  simp only [same, delivered] at handled
  let ack := Acknowledgement.success recipients caller.answeredAt
  have reply : Handler.reply caller ack =
      ([.replied ack.encode, .hungUp], .ok (.responded ack)) := by
    unfold Handler.reply
    rw [replies]
  change h.handle caller fs =
    { files := fs', effects := _ ++ (Handler.reply caller ack).1, stage := _ } at handled
  rw [reply] at handled
  have written : (h.peer caller fs ending).reply = .ofString ack.encode := by
    rw [Handler.peer, handled]
    simp [Effect.written]
  refine ⟨_, ack.encode, ack, congrArg Handler.Step.effects handled,
    congrArg Handler.Step.files handled, e.render_entry now _, ack.isLine_encode,
    ack.decode_encode, rfl, rfl, ?_, rfl⟩
  rw [RelayClient.send, addresses, RelayClient.sendTo_first unreachable reached,
    RelayClient.exchange_encode awaits rfl written]
  rfl

theorem send_confirmed_once_in_two_pieces :
    ∃ (h : Handler) (caller : Caller) (net : Network) (fs : FileSystem) (ack : Acknowledgement),
      (RelayClient.send ⟨some "down:1", some "up:1", 1, 1, 1, true⟩ net
        { source := "backup", title := "done" } 0).2 = .ok ⟨"up:1", some ack⟩ ∧
      ack.recipients = some ["root@up"] ∧
      Effect.messages (h.handle caller fs).effects =
        [Message.ofEvent { source := "backup", title := "done" }] := by
  let e : Event := { source := "backup", title := "done" }
  let line := Bytes.ofString (e.encode 0)
  let h : Handler :=
    { log := ⟨⟨"/log"⟩, .lines, 0, 1⟩
      sink := { name := "mail", deliver := fun _ _ => { result := .ok (some ["root@up"]) } }
      readTimeoutMs := 1
      deliveryTimeoutMs := 1
      bufferSize := (Bytes.ofString (e.stamped 0).toValue.text).length }
  let caller : Caller :=
    { name := "client"
      incoming := { reads := [.bytes (line.take 9), .wait 1, .bytes (line.drop 9)] ++ [] }
      receivedAt := 0
      answeredAt := 0 }
  let fs := FileSystem.empty.put (.ofNames ["log"]) (.file [])
  let net : Network := fun address =>
    if address = "up:1" then .established (h.peer caller fs .silent) else .refused "no route"
  have path : FileSystem.IsName ⟨"/log"⟩ "log" := FileSystem.isName_at_root "log" (by decide)
  have found : fs.find ⟨"/log"⟩ =
      .ok (.ofNames ["log"], .file (.ofString (EventLog.record []))) := by
    rw [EventLog.record_nil, Bytes.ofString_empty]
    exact path.find rfl
  have arrives : Arrives [.bytes (line.take 9), .wait 1, .bytes (line.drop 9)] 1 line :=
    ⟨by simp [Read.data], by decide, by decide⟩
  have named : Text.isBlankText e.source = false := by decide +kernel
  have time : (e.stamped 0).TimeFits := by
    unfold Event.TimeFits
    decide
  have addresses : (RelayClient.mk (some "down:1") (some "up:1") 1 1 1 true).addresses =
      ["down:1"] ++ "up:1" :: [] := rfl
  have unreachable : ∀ a ∈ ["down:1"], ∀ peer, net a ≠ .established peer := by simp [net]
  have reached : net "up:1" = .established (h.peer caller fs .silent) := if_pos rfl
  obtain ⟨acts, reply, ack, effects, -, -, -, -, -, recipients, sent, -⟩ :=
    send_confirmed_once named time rfl addresses unreachable reached rfl arrives (Nat.le_refl _) rfl
      (EventLog.append_of_find found _) rfl
  refine ⟨h, caller, net, fs, ack, congrArg Prod.snd sent, recipients, ?_⟩
  rw [effects]
  rfl

end EventRelay
