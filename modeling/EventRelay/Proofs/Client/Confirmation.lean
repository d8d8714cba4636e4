import EventRelay.Proofs.Connection.Exchange
import EventRelay.Proofs.Connection.Reply

namespace EventRelay

theorem Receipt.confirmed_iff {r : Receipt} {a : Acknowledgement}
    (acknowledged : r.acknowledgement = some a) : r.confirmed = true ↔ a.status = .success := by
  rw [confirmed, acknowledged]
  exact beq_iff_eq

namespace Handler

variable {h : Handler} {c : Caller} {a : Acknowledgement}

theorem written_of_responded {ack : Acknowledgement}
    (responded : (reply c ack).2 = .ok (.responded a)) :
    Effect.written (reply c ack).1 = a.encode := by
  unfold reply at responded ⊢
  split at responded
  · cases responded
  · cases responded
  · cases responded
    simp [Effect.written]
  · cases responded
    simp [Effect.written]

theorem reply_peer (fs : FileSystem) (ending : ReplyEnd)
    (responded : (h.handle c fs).stage = .ended (.ok (.responded a))) :
    (h.peer c fs ending).reply = .ofString a.encode := by
  by_cases given : ∀ why, h.request c ≠ .none why
  · obtain ⟨ack, written, stage⟩ := handle_given given fs
    rw [stage] at responded
    rw [peer, written, written_of_responded (Stage.ended.inj responded)]
  · obtain ⟨why, none⟩ : ∃ why, h.request c = .none why := by simpa using given
    rw [handle_none none] at responded
    cases responded

end Handler

namespace RelayClient

variable {c : RelayClient} {net : Network.Course} {a : Acknowledgement} {peer : Peer}
  {address : String} {refused others : List String}

theorem send_acknowledged (awaits : c.awaitAck = true)
    (addresses : c.addresses = refused ++ address :: others) (fails : net.FailsFrom 0 refused)
    (reached : net.during refused.length address = .established peer)
    (taken : peer.write = .taken) (begun : Bytes.ofString a.encode <+: peer.reply) (e : Event)
    (now : Int) : (c.send net e now).2 = .ok { address, acknowledgement := some a } := by
  obtain ⟨last, passed, -⟩ := sendTo_passing (c := c) {} fails (e.encode now)
    (address :: others) .notConfigured
  rw [send, addresses, passed, sendTo_reached reached, exchange_of_prefix awaits taken begun]
  rfl

end RelayClient

/--
The text of an acknowledgement has one line feed, at its end, and is read as the acknowledgement it
was made of. A relay that gives it writes just this text; a client that waits for it, and is
answered by this text with anything behind it, has it on its receipt.
-/
theorem Acknowledgement.end_to_end (a : Acknowledgement) :
    a.encode.toList.count '\n' = 1 ∧ a.encode.toList.getLast? = some '\n' ∧
    decode a.encode = .ok a ∧
    (∀ (h : Handler) (caller : Caller) (fs : FileSystem) (ending : ReplyEnd),
      (h.handle caller fs).stage = .ended (.ok (.responded a)) →
        (h.peer caller fs ending).reply = .ofString a.encode) ∧
    ∀ (c : RelayClient) (net : Network.Course) (address : String) (refused others : List String)
      (peer : Peer) (e : Event) (now : Int), c.awaitAck = true →
      c.addresses = refused ++ address :: others → net.FailsFrom 0 refused →
      net.during refused.length address = .established peer → peer.write = .taken →
      Bytes.ofString a.encode <+: peer.reply →
        ∃ receipt, (c.send net e now).2 = .ok receipt ∧ receipt.acknowledgement = some a ∧
          (receipt.confirmed = true ↔ a.status = .success) := by
  obtain ⟨once, last⟩ := a.isLine_encode.ends
  refine ⟨once, last, a.decode_encode, fun h caller fs ending => Handler.reply_peer fs ending, ?_⟩
  intro c net address refused others peer e now awaits addresses fails reached taken begun
  exact ⟨_, RelayClient.send_acknowledged awaits addresses fails reached taken begun e now, rfl,
    Receipt.confirmed_iff rfl⟩

theorem Acknowledgement.end_to_end_of_stderr :
    let a : Acknowledgement :=
      { status := .error, message := "exit 1:\r\n\t\"no such\nuser\"\u0000"
        timestamp := "t", recipients := some [] }
    let peer : Peer := { reply := Bytes.ofString a.encode ++ [255, 10], ending := .broken }
    let net : Network := fun address =>
      if address = "up:1" then .established peer else .refused "no route"
    let c : RelayClient := ⟨some "down:1", some "up:1", 1, 1, 1, true⟩
    a.encode.toList.count '\n' = 1 ∧ decode a.encode = .ok a ∧
      ∃ receipt, (c.send net { source := "s", title := "t" } 0).2 = .ok receipt ∧
        receipt.acknowledgement = some a ∧ receipt.confirmed ≠ true := by
  intro a peer net c
  obtain ⟨once, -, decoded, -, received⟩ := a.end_to_end
  have down : net.steady.Fails 0 "down:1" := by simp [Network.Course.Fails, Network.steady, net]
  have up : net.steady.during 1 "up:1" = .established peer := by simp [Network.steady, net]
  obtain ⟨receipt, sent, acknowledged, confirmed⟩ := received c net "up:1" ["down:1"] [] peer
    { source := "s", title := "t" } 0 rfl rfl (.cons down Network.Course.failsFrom_nil) up rfl
    (List.prefix_append _ _)
  refine ⟨once, decoded, receipt, sent, acknowledged, fun success => ?_⟩
  cases confirmed.mp success

end EventRelay
