import EventRelay.Client
import EventRelay.Proofs.Acknowledgement
import EventRelay.Proofs.Text.Encoding

namespace EventRelay

namespace Network.Course

variable {net : Network.Course} {n : Nat}

def Fails (net : Network.Course) (n : Nat) (address : String) : Prop :=
  ∀ peer, net.during n address ≠ .established peer

/-- No attempt at the addresses leads to a connection, from attempt number `n` on. -/
def FailsFrom (net : Network.Course) (n : Nat) (addresses : List String) : Prop :=
  ∀ i address, addresses[i]? = some address → net.Fails (n + i) address

theorem failsFrom_nil : net.FailsFrom n [] := by
  intro i address h
  cases h

theorem FailsFrom.head {address : String} {rest : List String}
    (h : net.FailsFrom n (address :: rest)) : net.Fails n address := h 0 address rfl

theorem FailsFrom.tail {address : String} {rest : List String}
    (h : net.FailsFrom n (address :: rest)) : net.FailsFrom (n + 1) rest := by
  intro i a ha
  have := h (i + 1) a ha
  rwa [Nat.add_comm i 1, ← Nat.add_assoc] at this

theorem FailsFrom.fails {addresses : List String} (h : net.FailsFrom 0 addresses) {i : Nat}
    {address : String} (at_i : addresses[i]? = some address) : net.Fails i address := by
  have := h i address at_i
  rwa [Nat.zero_add] at this

theorem FailsFrom.cons {address : String} {rest : List String} (first : net.Fails n address)
    (others : net.FailsFrom (n + 1) rest) : net.FailsFrom n (address :: rest) := by
  intro i a ha
  cases i with
  | zero =>
    cases ha
    exact first
  | succ i =>
    rw [Nat.add_comm i 1, ← Nat.add_assoc]
    exact others i a ha

theorem exists_split (net : Network.Course) (n : Nat) (addresses : List String) :
    ∃ refused others, addresses = refused ++ others ∧ net.FailsFrom n refused ∧
      (others = [] ∨ ∃ address rest peer, others = address :: rest ∧
        net.during (n + refused.length) address = .established peer) := by
  induction addresses generalizing n with
  | nil => exact ⟨[], [], rfl, failsFrom_nil, .inl rfl⟩
  | cons address addresses ih =>
    by_cases failed : net.Fails n address
    · obtain ⟨refused, others, rfl, fails, ends⟩ := ih (n + 1)
      refine ⟨address :: refused, others, rfl, .cons failed fails, ?_⟩
      rwa [List.length_cons, Nat.add_comm refused.length 1, ← Nat.add_assoc]
    · obtain ⟨peer, reached⟩ : ∃ peer, net.during n address = .established peer := by
        simpa [Fails] using failed
      exact ⟨[], address :: addresses, rfl, failsFrom_nil,
        .inr ⟨address, addresses, peer, rfl, reached⟩⟩

end Network.Course

namespace RelayClient

variable {c : RelayClient} {address : String} {peer : Peer}

section Attempts

variable {net : Network.Course}

theorem connect_established {net : Network} (h : net address = .established peer) :
    c.connect net address = .ok peer := by
  unfold connect
  rw [h]

theorem connect_unestablished {net : Network} (h : ∀ peer, net address ≠ .established peer) :
    ∃ e, c.connect net address = .error e ∧ e.triggersFailover = true := by
  unfold connect
  cases hn : net address with
  | established peer => exact absurd hn (h peer)
  | refused cause => exact ⟨_, rfl, rfl⟩
  | pending => exact ⟨_, rfl, rfl⟩

theorem sendTo_reached {traffic : Traffic} {line : String}
    (reached : net.during traffic.attempts.length address = .established peer)
    (others : List String) (last : Failure) :
    c.sendTo net line (address :: others) last traffic =
      ({ attempts := traffic.attempts ++ [address]
         written := traffic.written ++ [(address, line)] },
        (c.exchange peer address).map fun acknowledgement => { address, acknowledgement }) := by
  rw [sendTo]
  simp only [connect_established reached]

theorem sendTo_failed {traffic : Traffic} (failed : net.Fails traffic.attempts.length address)
    (line : String) (others : List String) (last : Failure) :
    ∃ e, c.connect (net.during traffic.attempts.length) address = .error e ∧
      c.sendTo net line (address :: others) last traffic =
        c.sendTo net line others e { traffic with attempts := traffic.attempts ++ [address] } := by
  obtain ⟨e, unconnected, leads⟩ := connect_unestablished (c := c) failed
  refine ⟨e, unconnected, ?_⟩
  rw [sendTo]
  simp only [unconnected, leads, if_true]

theorem sendTo_passing (traffic : Traffic) {refused : List String}
    (fails : net.FailsFrom traffic.attempts.length refused) (line : String) (others : List String)
    (last : Failure) :
    ∃ e, c.sendTo net line (refused ++ others) last traffic =
        c.sendTo net line others e { traffic with attempts := traffic.attempts ++ refused } ∧
      (refused = [] ∧ e = last ∨ ∃ before final, refused = before ++ [final] ∧
        c.connect (net.during (traffic.attempts.length + before.length)) final = .error e) := by
  -- every address that is passed by moves the number of the attempt on, so the traffic is general
  induction refused generalizing last traffic with
  | nil =>
    refine ⟨last, ?_, .inl ⟨rfl, rfl⟩⟩
    rw [List.nil_append, List.append_nil]
  | cons address refused ih =>
    obtain ⟨e, unconnected, step⟩ :=
      sendTo_failed (c := c) fails.head line (refused ++ others) last
    have later : net.FailsFrom (traffic.attempts ++ [address]).length refused := by
      rw [List.length_append, List.length_singleton]
      exact fails.tail
    obtain ⟨e', passed, kept⟩ :=
      ih { traffic with attempts := traffic.attempts ++ [address] } later e
    refine ⟨e', ?_, .inr ?_⟩
    · rw [List.cons_append, step, passed, List.append_assoc]
      rfl
    · rcases kept with ⟨rfl, rfl⟩ | ⟨before, final, rfl, unconnected'⟩
      · exact ⟨[], address, rfl, unconnected⟩
      · refine ⟨address :: before, final, rfl, ?_⟩
        rw [List.length_append, List.length_singleton] at unconnected'
        rwa [List.length_cons, Nat.add_comm before.length 1, ← Nat.add_assoc]

end Attempts

theorem sendTo_first {net : Network} {refused : List String}
    (unreachable : ∀ a ∈ refused, ∀ peer, net a ≠ .established peer)
    (reached : net address = .established peer) (line : String) (others : List String)
    (last : Failure) (traffic : Traffic) :
    c.sendTo net line (refused ++ address :: others) last traffic =
      ({ attempts := traffic.attempts ++ (refused ++ [address])
         written := traffic.written ++ [(address, line)] },
        (c.exchange peer address).map fun acknowledgement => { address, acknowledgement }) := by
  have fails : net.steady.FailsFrom traffic.attempts.length refused := by
    intro i a ha
    exact unreachable a (List.mem_of_getElem? ha)
  obtain ⟨e, passed, -⟩ := sendTo_passing (c := c) traffic fails line (address :: others) last
  rw [passed, sendTo_reached reached, List.append_assoc]

theorem firstLine_feed {line more : Bytes} (reply : peer.reply = line ++ 10 :: more)
    (first : 10 ∉ line) : firstLine peer = some (line ++ [10]) := by
  have taken : peer.reply.takeWhile (· != 10) = line := by
    rw [reply]
    exact Bytes.takeWhile_ne first more
  unfold firstLine
  simp only [taken]
  rw [if_pos (by rw [reply]; simp)]

theorem firstLine_unfinished (unfinished : 10 ∉ peer.reply) :
    firstLine peer = if peer.ending = .closed ∧ peer.reply ≠ [] then some peer.reply else none := by
  have whole : peer.reply.takeWhile (· != 10) = peer.reply := Bytes.takeWhile_ne_self unfinished
  unfold firstLine
  simp only [whole, Nat.lt_irrefl, if_false, List.isEmpty_iff]
  cases peer.ending <;> simp [ite_not]

theorem readReply_eq_some_iff {a : Acknowledgement} :
    readReply peer = some a ↔ ∃ line text, firstLine peer = some line ∧
      line.toString? = some text ∧ Acknowledgement.decode text = .ok a := by
  have toOption_eq : ∀ r : Outcome Acknowledgement, r.toOption = some a ↔ r = .ok a := by
    intro r
    cases r <;> simp [Except.toOption]
  simp only [readReply, Option.bind_eq_bind, Option.bind_eq_some_iff, toOption_eq]
  constructor
  · rintro ⟨line, first, text, written, decoded⟩
    exact ⟨line, text, first, written, decoded⟩
  · rintro ⟨line, text, first, written, decoded⟩
    exact ⟨line, first, text, written, decoded⟩

theorem readReply_of_prefix {a : Acknowledgement}
    (begun : Bytes.ofString a.encode <+: peer.reply) : readReply peer = some a := by
  obtain ⟨more, reply⟩ := begun
  have line : Bytes.ofString a.encode = Bytes.ofString a.toValue.text ++ [10] :=
    Bytes.ofString_feed _
  have feed : 10 ∉ Bytes.ofString a.toValue.text := by
    intro h
    have := (Bytes.ofAscii_mem_ofString (a := '\n') (by decide)).mp h
    exact a.isPrinted_text.not_mem (by decide) this
  rw [line, List.append_assoc] at reply
  rw [readReply_eq_some_iff]
  refine ⟨.ofString a.encode, a.encode, ?_, Bytes.toString?_ofString _, a.decode_encode⟩
  rw [firstLine_feed reply.symm feed, line]

theorem exchange_of_prefix {a : Acknowledgement} (awaits : c.awaitAck = true)
    (taken : peer.write = .taken) (begun : Bytes.ofString a.encode <+: peer.reply) :
    c.exchange peer address = .ok (some a) := by
  unfold exchange
  rw [taken]
  simp only [awaits, if_true, readReply_of_prefix begun]

theorem exchange_encode {a : Acknowledgement} (awaits : c.awaitAck = true)
    (taken : peer.write = .taken) (reply : peer.reply = .ofString a.encode) :
    c.exchange peer address = .ok (some a) :=
  exchange_of_prefix awaits taken (reply ▸ List.prefix_refl _)

end RelayClient

end EventRelay
