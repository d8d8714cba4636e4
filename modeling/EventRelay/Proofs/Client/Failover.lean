import EventRelay.Proofs.Client

/-!
The whole course of sending one event. Main statement: on any network, which may change between the
attempts, the addresses are tried in order until one takes a connection, the request goes out on
that connection only, and the outcome tells what became of it.
-/

namespace EventRelay

namespace Peer

inductive FirstLine (p : Peer) : Bytes → Prop
  | finished {line more : Bytes} (reply : p.reply = line ++ 10 :: more) (first : 10 ∉ line) :
    FirstLine p (line ++ [10])
  | unfinished (ending : p.ending = .closed) (none : 10 ∉ p.reply) : FirstLine p p.reply

/-- The first line of the reply is text and carries the acknowledgement. -/
def Acknowledges (p : Peer) (a : Acknowledgement) : Prop :=
  ∃ line text, p.FirstLine line ∧ line.toString? = some text ∧ Acknowledgement.decode text = .ok a

end Peer

theorem Acknowledgement.decode_empty (a : Acknowledgement) : decode "" ≠ .ok a := by
  have fails : ∃ f, decode "" = .error f := ⟨_, rfl⟩
  obtain ⟨f, hf⟩ := fails
  rw [hf]
  intro h
  cases h

namespace RelayClient

variable {c : RelayClient} {p : Peer}

theorem firstLine_eq_some_iff {line : Bytes} :
    firstLine p = some line ↔ p.FirstLine line ∧ line ≠ [] := by
  constructor
  · intro h
    by_cases fed : 10 ∈ p.reply
    · obtain ⟨before, more, reply, first⟩ := List.eq_append_cons_of_mem fed
      rw [firstLine_feed reply first] at h
      cases h
      exact ⟨.finished reply first, by simp⟩
    · rw [firstLine_unfinished fed] at h
      split at h
      · next shown =>
        cases h
        exact ⟨.unfinished shown.1 fed, shown.2⟩
      · cases h
  · rintro ⟨first, shown⟩
    cases first with
    | finished reply first => exact firstLine_feed reply first
    | unfinished ending none => rw [firstLine_unfinished none, if_pos ⟨ending, shown⟩]

theorem readReply_iff_acknowledges {a : Acknowledgement} :
    readReply p = some a ↔ p.Acknowledges a := by
  rw [readReply_eq_some_iff]
  simp only [firstLine_eq_some_iff]
  constructor
  · rintro ⟨line, text, ⟨first, -⟩, written, decoded⟩
    exact ⟨line, text, first, written, decoded⟩
  · rintro ⟨line, text, first, written, decoded⟩
    refine ⟨line, text, ⟨first, ?_⟩, written, decoded⟩
    rintro rfl
    rw [← Bytes.ofString_empty, Bytes.toString?_ofString] at written
    cases written
    exact Acknowledgement.decode_empty a decoded

/-- What comes of an event that is handed to a peer. -/
inductive Handed (c : RelayClient) (address : String) (p : Peer) : Outcome Receipt → Prop
  | broken {cause : String} (write : p.write = .broken cause) :
    Handed c address p (.error (.transport address "send event" [cause]))
  | stalled (write : p.write = .stalled) :
    Handed c address p (.error (.timeout "sending event" c.sendTimeoutMs))
  | taken {ack : Option Acknowledgement} (write : p.write = .taken)
    (reply : ∀ a, ack = some a ↔ c.awaitAck = true ∧ p.Acknowledges a) :
    Handed c address p (.ok { address, acknowledgement := ack })

theorem handed_exchange (c : RelayClient) (address : String) (p : Peer) :
    c.Handed address p
      ((c.exchange p address).map fun acknowledgement => { address, acknowledgement }) := by
  unfold exchange
  split
  · next write => exact .broken write
  · next write => exact .stalled write
  · next write =>
    refine .taken write fun a => ?_
    by_cases awaits : c.awaitAck = true
    · rw [if_pos awaits, readReply_iff_acknowledges]
      exact (and_iff_right awaits).symm
    · rw [if_neg awaits]
      simp [awaits]

/-- What a client did to send a line, and what came of it. -/
structure Sending (c : RelayClient) (net : Network.Course) (line : String) (traffic : Traffic)
    (result : Outcome Receipt) : Prop where
  inOrder : traffic.attempts <+: c.addresses
  onFailure : ∀ n address, n + 1 < traffic.attempts.length →
    traffic.attempts[n]? = some address → net.Fails n address
  writtenOnce : traffic.written = [] ∨ ∃ address, traffic.attempts.getLast? = some address ∧
    traffic.written = [(address, line)]
  unconfigured : c.addresses = [] → traffic = {} ∧ result = .error .notConfigured
  unreached : net.FailsFrom 0 c.addresses → ∀ n address, c.addresses.length = n + 1 →
    c.addresses[n]? = some address → traffic = { attempts := c.addresses } ∧
      (∀ cause, net.during n address = .refused cause →
        result = .error (.connect address [cause])) ∧
      (net.during n address = .pending →
        result = .error (.connectTimeout address c.connectTimeoutMs))
  reached : ∀ n address peer, c.addresses[n]? = some address →
    net.during n address = .established peer → net.FailsFrom 0 (c.addresses.take n) →
    traffic = { attempts := c.addresses.take (n + 1), written := [(address, line)] } ∧
      c.Handed address peer result

section Outcomes

variable {net : Network.Course} {line : String}

theorem connect_refused {net : Network} {address cause : String} (h : net address = .refused cause) :
    c.connect net address = .error (.connect address [cause]) := by
  rw [connect, h]

theorem connect_pending {net : Network} {address : String} (h : net address = .pending) :
    c.connect net address = .error (.connectTimeout address c.connectTimeoutMs) := by
  rw [connect, h]

theorem sending_unreached {e : Failure} (fails : net.FailsFrom 0 c.addresses)
    (kept : c.addresses = [] ∧ e = .notConfigured ∨ ∃ before final,
      c.addresses = before ++ [final] ∧
      c.connect (net.during before.length) final = .error e) :
    c.Sending net line { attempts := c.addresses } (.error e) where
  inOrder := List.prefix_refl _
  onFailure _ _ _ at_n := fails.fails at_n
  writtenOnce := .inl rfl
  unconfigured none := by
    rcases kept with ⟨-, rfl⟩ | ⟨before, final, split, -⟩
    · rw [none]
      exact ⟨rfl, rfl⟩
    · rw [none] at split
      cases before <;> cases split
  unreached _ n address last at_n := by
    rcases kept with ⟨none, -⟩ | ⟨before, final, split, failed⟩
    · rw [none] at last
      cases last
    · rw [split, List.length_append, List.length_singleton, Nat.add_right_cancel_iff] at last
      subst last
      rw [split, List.getElem?_concat_length] at at_n
      cases at_n
      refine ⟨rfl, ?_, ?_⟩
      · intro cause refused
        rw [connect_refused refused] at failed
        cases failed
        rfl
      · intro pending
        rw [connect_pending pending] at failed
        cases failed
        rfl
  reached _ _ peer at_n reached _ := absurd reached (fails.fails at_n peer)

theorem sending_reached {refused rest : List String} {address : String}
    (split : c.addresses = refused ++ address :: rest) (fails : net.FailsFrom 0 refused)
    (reached : net.during refused.length address = .established p) {result : Outcome Receipt}
    (handed : c.Handed address p result) :
    c.Sending net line { attempts := refused ++ [address], written := [(address, line)] } result where
  inOrder := by
    rw [split]
    exact (List.prefix_append_right_inj refused).mpr ⟨rest, rfl⟩
  onFailure n a before at_n := by
    rw [List.length_append, List.length_singleton, Nat.add_lt_add_iff_right] at before
    rw [List.getElem?_append_left before] at at_n
    exact fails.fails at_n
  writtenOnce := .inr ⟨address, List.getLast?_concat, rfl⟩
  unconfigured none := by
    rw [split] at none
    cases refused <;> cases none
  unreached all := by
    rw [split] at all
    exact absurd reached (all.fails (by simp) p)
  reached n a peer at_n reached' before := by
    rw [split] at at_n before
    -- only the address that took the connection can be the first one to do so
    rcases Nat.lt_trichotomy n refused.length with less | rfl | more
    · rw [List.getElem?_append_left less] at at_n
      exact absurd reached' (fails.fails at_n peer)
    · have same : a = address := by simpa using at_n.symm
      subst same
      rw [reached] at reached'
      cases reached'
      refine ⟨?_, handed⟩
      rw [split, List.take_append, List.take_of_length_le (Nat.le_succ _), Nat.add_sub_cancel_left]
      rfl
    · exact absurd reached (before.fails (by simp [more]) p)

end Outcomes

theorem addresses_ofConfig (config : ClientConfig) :
    (ofConfig config).addresses =
      ((config.primary.toList ++ config.backup.toList).map Text.trim).filter (!·.isEmpty) := by
  have one : ∀ address : Option String,
      (usable address).toList = (address.toList.map Text.trim).filter (!·.isEmpty) := by
    rintro (_ | address)
    · rfl
    · by_cases blank : (Text.trim address).isEmpty = true <;> simp [usable, Option.filter, blank]
  rw [addresses, ofConfig, one, one, List.map_append, List.filter_append]

/--
The client of any configuration sends one event over any network. Its addresses are the trimmed ones
that are not blank.
-/
theorem send_once (config : ClientConfig) (net : Network.Course) (e : Event) (now : Int) :
    (ofConfig config).addresses =
      ((config.primary.toList ++ config.backup.toList).map Text.trim).filter (!·.isEmpty) ∧
    (ofConfig config).Sending net (e.encode now) ((ofConfig config).send net e now).1
      ((ofConfig config).send net e now).2 := by
  refine ⟨addresses_ofConfig config, ?_⟩
  generalize ofConfig config = c
  obtain ⟨refused, others, split, fails, ends⟩ := net.exists_split 0 c.addresses
  obtain ⟨e', passed, kept⟩ :=
    sendTo_passing (c := c) {} fails (e.encode now) others .notConfigured
  rw [Nat.zero_add] at ends
  rcases ends with rfl | ⟨address, rest, peer, rfl, reached⟩
  · rw [List.append_nil] at split
    have nobody : c.send net e now = ({ attempts := c.addresses }, .error e') := by
      rw [← split, List.append_nil] at passed
      exact passed
    rw [nobody]
    rw [← split] at fails kept
    refine sending_unreached fails ?_
    rcases kept with none | ⟨before, final, same, failed⟩
    · exact .inl none
    · rw [List.length_nil, Nat.zero_add] at failed
      exact .inr ⟨before, final, same, failed⟩
  · rw [send, split, passed, sendTo_reached reached]
    exact sending_reached split fails reached (c.handed_exchange address peer)

end RelayClient

end EventRelay
