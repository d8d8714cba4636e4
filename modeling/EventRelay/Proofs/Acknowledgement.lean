import EventRelay.Acknowledgement
import EventRelay.Proofs.Json.Records
import EventRelay.Proofs.Text.Lines

namespace EventRelay.Acknowledgement

open Json

variable {a : Acknowledgement}

def members (a : Acknowledgement) : List (String × Value) :=
  [("status", .string a.status.name), ("message", .string a.message),
    ("timestamp", .string a.timestamp)] ++
  (a.recipients.map fun rs => ("recipients", Value.list (rs.map .string))).toList

theorem toList_text (a : Acknowledgement) :
    a.toValue.text.toList = bracketed '{' '}' (renderMembers a.members) := by
  rw [Value.text, String.toList_ofList]
  rfl

theorem toList_encode (a : Acknowledgement) :
    a.encode.toList = bracketed '{' '}' (renderMembers a.members) ++ ['\n'] := by
  rw [encode, String.toList_append, toList_text]
  rfl

theorem renderAll_string (rs : List String) : renderAll (rs.map .string) = rs.map renderString := by
  induction rs with
  | nil => rfl
  | cons r rs ih =>
    rw [List.map_cons, renderAll, ih]
    rfl

theorem render_recipients (rs : List String) :
    (Value.list (rs.map .string)).render = bracketed '[' ']' (rs.map renderString) := by
  rw [Value.render, renderAll_string]

theorem reads_status (s : AckStatus) : Reads readStatus (renderString s.name) s := by
  intro rest _
  have read : readChoice AckStatus.success.name AckStatus.error.name
      (renderString s.name ++ rest) = .ok (s == .success, rest) := by
    rw [renderString_append, readChoice, atValue, skipSpace_cons (by decide)]
    simp only [if_true, readString_escaped]
    cases s <;> rfl
  unfold readStatus
  rw [read]
  cases s <;> rfl

theorem reads_recipients (rs : List String) :
    Reads readRecipients (Value.list (rs.map .string)).render (some rs) := by
  rw [render_recipients]
  refine Reads.optional (reads_list (reads_text "a string") shows_renderString rs) ?_
  exact .intro _ _ (by decide) (by decide) (by decide)

def known (a : Acknowledgement) : Known :=
  { status := some a.status
    message := some a.message
    timestamp := some a.timestamp
    recipients := a.recipients.map some }

section Members

variable {k : Known}

theorem takes_status (unknown : k.status = none) (v : AckStatus) :
    Reads (readField "status" k) (':' :: (Value.string v.name).render)
      { k with status := some v } := by
  unfold readField
  rw [unknown]
  exact (reads_once (reads_status v) _).map fun v => { k with status := v }

theorem takes_message (unknown : k.message = none) (v : String) :
    Reads (readField "message" k) (':' :: (Value.string v).render)
      { k with message := some v } := by
  unfold readField
  rw [unknown]
  exact (reads_once (reads_text "a string" v) _).map fun v => { k with message := v }

theorem takes_timestamp (unknown : k.timestamp = none) (v : String) :
    Reads (readField "timestamp" k) (':' :: (Value.string v).render)
      { k with timestamp := some v } := by
  unfold readField
  rw [unknown]
  exact (reads_once (reads_text "a string" v) _).map fun v => { k with timestamp := v }

theorem takes_recipients (unknown : k.recipients = none) (v : List String) :
    Reads (readField "recipients" k) (':' :: (Value.list (v.map .string)).render)
      { k with recipients := some (some v) } := by
  unfold readField
  rw [unknown]
  exact (reads_once (reads_recipients v) _).map fun v => { k with recipients := v }

end Members

theorem takes_members (a : Acknowledgement) : Takes readField a.members {} a.known := by
  obtain ⟨status, message, timestamp, recipients⟩ := a
  have texts : Takes readField [("status", .string status.name), ("message", .string message),
      ("timestamp", .string timestamp)] {}
      { status := some status, message := some message, timestamp := some timestamp } :=
    .cons (takes_status rfl status) (.cons (takes_message rfl message)
      (.cons (takes_timestamp rfl timestamp) (.nil _)))
  refine texts.append ?_
  cases recipients with
  | none => exact .nil _
  | some rs => exact .cons (takes_recipients rfl rs) (.nil _)

theorem readNamed_members (a : Acknowledgement) (rest : List Char) :
    readNamed (List.intercalate [','] (renderMembers a.members) ++ '}' :: rest) =
      .ok (a, '}' :: rest) := by
  unfold readNamed
  rw [(takes_members a).readMembers rest]
  obtain ⟨status, message, timestamp, recipients⟩ := a
  cases recipients <;> rfl

theorem decode_encode (a : Acknowledgement) : decode a.encode = .ok a := by
  have read : readWhole read (bracketed '{' '}' (renderMembers a.members)) = .ok a := by
    apply readWhole_ok
    intro rest
    exact readRecord_object readPositional typeName rest (readNamed_members a rest)
  unfold decode
  rw [toList_encode, trimList_object_feed]
  simp only [read]

theorem isPrinted_text (a : Acknowledgement) : IsPrinted a.toValue.text.toList := by
  rw [toList_text]
  apply isPrinted_object
  intro m hm
  simp only [members, List.mem_append, List.mem_cons, List.not_mem_nil, or_false,
    Option.mem_toList, Option.map_eq_some_iff] at hm
  rcases hm with (rfl | rfl | rfl) | ⟨rs, -, rfl⟩
  · exact isPrinted_renderString _
  · exact isPrinted_renderString _
  · exact isPrinted_renderString _
  · simp only [render_recipients]
    refine isPrinted_bracketed (by decide) (by decide) ?_
    intro item hi
    obtain ⟨r, -, rfl⟩ := List.mem_map.mp hi
    exact isPrinted_renderString r

theorem isLine_encode (a : Acknowledgement) : Text.IsLine a.encode :=
  ⟨a.toValue.text, rfl, a.isPrinted_text.not_mem (by decide), a.isPrinted_text.not_mem (by decide)⟩

end EventRelay.Acknowledgement
