import EventRelay.Proofs.Connection.Handler
import EventRelay.Proofs.EventLog.Entry
import EventRelay.Proofs.Json.Steady
import EventRelay.Proofs.Text.Blank

namespace EventRelay

namespace Event

open Json

theorem steady_level : Steady readLevel := (steady_text _).map Level.ofName

theorem steady_field (key : String) (k : Known) : Steady (readField key k) := by
  unfold readField
  split
  · exact ((steady_text _).once _ _).map fun v => { k with source := v }
  · exact ((steady_text _).once _ _).map fun v => { k with title := v }
  · exact ((steady_text _).once _ _).map fun v => { k with details := v }
  · exact ((steady_text _).optional.once _ _).map fun v => { k with tag := v }
  · exact (steady_level.once _ _).map fun v => { k with level := v }
  · exact (steady_int64.optional.once _ _).map fun v => { k with timestamp := v }
  · exact follows_readColon.bind (follows_skipValue.bind (steady_done k))

theorem steady_fields (fuel : Nat) :
    Steady (fun s => do
      let (known, s) ← readMembers readField fuel true {} s
      match known.toEvent? with
      | some e => .ok (e, s)
      | none => .error (missingField Field.title.key s)) := by
  refine (Steady.members steady_field fuel true {}).bind fun known => ?_
  dsimp only
  cases known.toEvent? with
  | some e => exact steady_done e
  | none => exact follows_error _

theorem steady_named : Steady readNamed := by
  intro s a h
  unfold readNamed
  -- the text in one line is as long, so the same fuel is allowed for it
  rw [length_oneLine]
  exact steady_fields _ h

theorem steady_positional : Steady readPositional := by
  refine ((steady_text _).next true).bind fun source => ?_
  refine ((steady_text _).next _).bind fun title => ?_
  cases title with
  | none => exact follows_error _
  | some title =>
    refine ((steady_text _).next false).bind fun details => ?_
    refine ((steady_text _).optional.next false).bind fun tag => ?_
    refine (steady_level.next false).bind fun level => ?_
    exact (steady_int64.optional.next false).bind fun timestamp => steady_done _

theorem steady_read : Steady Event.read := steady_positional.record steady_named typeName

end Event

theorem LogEntry.flatten_eq (raw : String) :
    flatten raw = String.ofList (Json.oneLine (Text.trimList raw.toList)) := rfl

theorem Json.isBlank_unbroken (c : Char) : Text.isBlank (unbroken c) = Text.isBlank c := by
  unfold unbroken
  split
  · next h => rcases h with rfl | rfl <;> rfl
  · rfl

theorem Event.decode_flatten {text : String} {event : Event} (accepted : decode text = .ok event) :
    decode (LogEntry.flatten (String.ofList (Text.trimEnd text.toList))) = .ok event := by
  have trimmed : Text.trimList (LogEntry.flatten
      (String.ofList (Text.trimEnd text.toList))).toList =
      Json.oneLine (Text.trimList text.toList) := by
    rw [LogEntry.flatten_eq, String.toList_ofList, String.toList_ofList, Text.trimList_trimEnd,
      Json.oneLine, Text.trimList_map Json.isBlank_unbroken, Text.trimList_trimList]
  unfold decode at accepted ⊢
  dsimp only at accepted ⊢
  rw [trimmed]
  split at accepted
  · cases accepted
  · next full =>
    rw [Json.isEmpty_oneLine, if_neg full]
    split at accepted
    · cases accepted
    · next e read =>
      rw [steady_read.whole read]
      exact accepted

namespace Handler

theorem handle_line {h : Handler} {c : Caller} {text : String} {event : Event} {entry : LogEntry}
    (request : h.request c = .line text) (received : receive c (.line text) = .logging event entry)
    (fs : FileSystem) :
    Effect.messages (h.handle c fs).effects = [Message.ofEvent event] ∧
      (h.handle c fs).files = (h.log.append entry fs).toOption.getD fs := by
  rw [← request] at received
  have messages (logged : Outcome Unit) (acts : List Act) (ack : Acknowledgement) :
      Effect.messages ([.logged logged, .delivered (.ofEvent event) acts] ++ (reply c ack).1) =
        [Message.ofEvent event] := by
    unfold reply
    split <;> rfl
  cases appended : h.log.append entry fs with
  | ok fs' =>
    rw [handle_accepted received appended]
    exact ⟨messages .., rfl⟩
  | error f =>
    rw [handle_unlogged received appended]
    exact ⟨messages .., rfl⟩

/--
Behind the time, the log holds a text that is accepted as the very event that was taken from the
line and handed to the sink.
-/
theorem record_decodes {text : String} {event : Event} (accepted : Event.decode text = .ok event)
    (c : Caller) :
    ∃ entry body, receive c (.line text) = .logging event entry ∧
      entry.render = "[" ++ Calendar.render c.receivedAt ++ "] " ++ body ++ "\n" ∧
      Event.decode body = .ok event ∧
      ∀ (h : Handler) (fs : FileSystem), h.request c = .line text →
        Effect.messages (h.handle c fs).effects = [Message.ofEvent event] ∧
          (h.handle c fs).files = (h.log.append entry fs).toOption.getD fs := by
  have received : receive c (.line text) = .logging event
      { receivedAt := c.receivedAt, raw := String.ofList (Text.trimEnd text.toList) } := by
    rw [receive, accepted]
  exact ⟨_, _, received, LogEntry.render_eq_body _, Event.decode_flatten accepted,
    fun h fs request => handle_line request received fs⟩

theorem record_decodes_of_spread_out :
    let c : Caller :=
      { name := "client", incoming := { reads := [] }, receivedAt := 0, answeredAt := 0 }
    let text := "\u00a0\u2003\x7b\r\"message\" :\t\"\\u0041\",\r\"x\":[\x7b\"y\":1e5\x7d]," ++
      "\n \"source\"\r:\"s\"\x7d\r\u2003"
    let event : Event := { source := "s", title := "A" }
    Event.decode text = .ok event ∧
      ∃ entry body, receive c (.line text) = .logging event entry ∧
        entry.render = "[" ++ Calendar.render 0 ++ "] " ++ body ++ "\n" ∧
        Event.decode body = .ok event := by
  intro c text event
  have computed : (Event.decode text).toOption = some event := by decide +kernel
  have accepted : Event.decode text = .ok event := by
    cases h : Event.decode text with
    | error f =>
      rw [h] at computed
      cases computed
    | ok e =>
      rw [h] at computed
      exact congrArg _ (Option.some.inj computed)
  obtain ⟨entry, body, received, written, decoded, -⟩ := record_decodes accepted c
  exact ⟨accepted, entry, body, received, written, decoded⟩

end Handler

end EventRelay
