import EventRelay.Proofs.Text.Blank
import EventRelay.Sink.Mail

namespace EventRelay

namespace Text

variable {separates : Char → Bool} {c : Char} {cs part : List Char}

theorem splitAt_eq_splitOnP (separates : Char → Bool) (cs : List Char) :
    splitAt separates cs = cs.splitOnP separates := by
  induction cs with
  | nil => rfl
  | cons c cs ih =>
    rw [splitAt, List.splitOnP_cons_eq_if_modifyHead, ih]
    split
    · rfl
    · cases parts : cs.splitOnP separates with
      | nil => exact absurd parts (List.splitOnP_ne_nil _ _)
      | cons part parts => rfl

theorem splitAt_append_cons (h : separates c = true) (before behind : List Char) :
    splitAt separates (before ++ c :: behind) =
      splitAt separates before ++ splitAt separates behind := by
  simp only [splitAt_eq_splitOnP, List.splitOnP_append_cons _ _ h]

theorem splitAt_of_free (free : ∀ c ∈ cs, separates c = false) : splitAt separates cs = [cs] := by
  rw [splitAt_eq_splitOnP, List.splitOnP_eq_singleton free]

theorem splitAt_cons_of_plain (h : separates c = false) (cs : List Char) :
    ∃ part parts, splitAt separates cs = part :: parts ∧
      splitAt separates (c :: cs) = (c :: part) :: parts := by
  cases found : splitAt separates cs with
  | nil =>
    rw [splitAt_eq_splitOnP] at found
    exact absurd found (List.splitOnP_ne_nil _ _)
  | cons part parts =>
    refine ⟨part, parts, rfl, ?_⟩
    rw [splitAt, if_neg (by simp [h]), found]

theorem free_of_mem_splitAt (h : part ∈ splitAt separates cs) :
    ∀ c ∈ part, separates c = false := by
  induction cs generalizing part with
  | nil =>
    rw [splitAt, List.mem_singleton] at h
    simp [h]
  | cons c cs ih =>
    cases first : separates c with
    | true =>
      rw [splitAt, if_pos first, List.mem_cons] at h
      rcases h with rfl | later
      · simp
      · exact ih later
    | false =>
      obtain ⟨head, parts, rest, whole⟩ := splitAt_cons_of_plain first cs
      rw [whole, List.mem_cons] at h
      rw [rest] at ih
      rcases h with rfl | later
      · exact List.forall_mem_cons.mpr ⟨first, ih List.mem_cons_self⟩
      · exact ih (List.mem_cons_of_mem _ later)

theorem trimList_sublist (cs : List Char) : (trimList cs).Sublist cs := by
  have ends := (List.dropWhile_sublist isBlank (l := (trimStart cs).reverse)).reverse
  rw [List.reverse_reverse] at ends
  exact ends.trans (List.dropWhile_sublist isBlank)

end Text

namespace Config

def recipientParts (cs : List Char) : List (List Char) :=
  ((Text.splitAt isRecipientSeparator cs).map Text.trimList).filter (!·.isEmpty)

theorem splitRecipients_eq (s : String) :
    splitRecipients s = (recipientParts s.toList).map String.ofList := rfl

theorem recipientParts_append {separator : Char} (h : isRecipientSeparator separator = true)
    (before behind : List Char) :
    recipientParts (before ++ separator :: behind) =
      recipientParts before ++ recipientParts behind := by
  rw [recipientParts, Text.splitAt_append_cons h, List.map_append, List.filter_append]
  rfl

theorem recipientParts_space (cs : List Char) : recipientParts (' ' :: cs) = recipientParts cs := by
  have plain : isRecipientSeparator ' ' = false := by decide
  obtain ⟨part, parts, rest, whole⟩ := Text.splitAt_cons_of_plain plain cs
  have trimmed : Text.trimList (' ' :: part) = Text.trimList part := by
    rw [Text.trimList, Text.trimStart, List.dropWhile_cons_of_pos (by decide)]
    rfl
  rw [recipientParts, recipientParts, whole, rest, List.map_cons, List.map_cons, trimmed]

structure IsRecipient (r : String) : Prop where
  nonempty : r ≠ ""
  trimmed : Text.trim r = r
  whole : ';' ∉ r.toList ∧ ',' ∉ r.toList

variable {r s : String} {rs : List String}

theorem not_mem_iff_free {cs : List Char} :
    (';' ∉ cs ∧ ',' ∉ cs) ↔ ∀ c ∈ cs, isRecipientSeparator c = false := by
  simp only [isRecipientSeparator, Bool.or_eq_false_iff, beq_eq_false_iff_ne]
  constructor
  · rintro ⟨semicolon, comma⟩ c mem
    exact ⟨fun same => semicolon (same ▸ mem), fun same => comma (same ▸ mem)⟩
  · exact fun free => ⟨fun mem => (free _ mem).1 rfl, fun mem => (free _ mem).2 rfl⟩

theorem isRecipient_of_mem (h : r ∈ splitRecipients s) : IsRecipient r := by
  obtain ⟨cs, found, rfl⟩ := List.mem_map.mp h
  obtain ⟨found, nonempty⟩ := List.mem_filter.mp found
  obtain ⟨part, split, rfl⟩ := List.mem_map.mp found
  have free := Text.free_of_mem_splitAt split
  refine ⟨?_, ?_, ?_⟩
  · intro empty
    have := congrArg String.toList empty
    simp_all
  · rw [Text.trim, String.toList_ofList, Text.trimList_trimList]
  · rw [String.toList_ofList, not_mem_iff_free]
    exact fun c mem => free c ((Text.trimList_sublist part).subset mem)

theorem recipientParts_of_isRecipient (h : IsRecipient r) :
    recipientParts r.toList = [r.toList] := by
  have trimmed : Text.trimList r.toList = r.toList := by
    have := congrArg String.toList h.trimmed
    rwa [Text.trim, String.toList_ofList] at this
  have shown : r.toList.isEmpty = false := by simpa using h.nonempty
  rw [recipientParts, Text.splitAt_of_free (not_mem_iff_free.mp h.whole), List.map_singleton,
    trimmed, List.filter_singleton, shown]
  rfl

theorem splitRecipients_append (before behind : String) :
    splitRecipients (before ++ ";" ++ behind) =
        splitRecipients before ++ splitRecipients behind ∧
      splitRecipients (before ++ "," ++ behind) =
        splitRecipients before ++ splitRecipients behind := by
  have split (separator : Char) (h : isRecipientSeparator separator = true) :
      (recipientParts (before.toList ++ separator :: behind.toList)).map String.ofList =
        splitRecipients before ++ splitRecipients behind := by
    rw [recipientParts_append h, List.map_append]
    rfl
  have semicolon : ";".toList = [';'] := rfl
  have comma : ",".toList = [','] := rfl
  constructor <;>
    rw [splitRecipients_eq, String.toList_append, String.toList_append, List.append_assoc]
  · rw [semicolon]
    exact split ';' (by decide)
  · rw [comma]
    exact split ',' (by decide)

theorem recipientParts_cons (h : IsRecipient r) (behind : List Char) :
    recipientParts (r.toList ++ ([',', ' '] ++ behind)) = r.toList :: recipientParts behind := by
  change recipientParts (r.toList ++ ',' :: ' ' :: behind) = _
  rw [recipientParts_append (by decide), recipientParts_of_isRecipient h, recipientParts_space,
    List.singleton_append]

theorem splitRecipients_intercalate (h : ∀ r ∈ rs, IsRecipient r) :
    splitRecipients (", ".intercalate rs) = rs := by
  have separator : ", ".toList = [',', ' '] := rfl
  rw [splitRecipients_eq, String.toList_intercalate, separator]
  induction rs with
  | nil => rfl
  | cons r rs ih =>
    rw [List.forall_mem_cons] at h
    cases rs with
    | nil =>
      rw [List.map_singleton, List.intercalate_singleton, recipientParts_of_isRecipient h.1,
        List.map_singleton, String.ofList_toList]
    | cons r' rs =>
      rw [List.map_cons, List.map_cons, List.intercalate_cons_cons, List.append_assoc,
        recipientParts_cons h.1, ← List.map_cons, List.map_cons, ih h.2, String.ofList_toList]

end Config

namespace MailSink

open Config (splitRecipients IsRecipient)

variable {s : MailSink} {transport : Mail.Transport} {m : Message}

theorem isRecipient_of_ofConfig (c : MailConfig) (host : String) :
    ∀ r ∈ (ofConfig c host).recipients, IsRecipient r := by
  intro r mem
  obtain ⟨entry, -, found⟩ := List.mem_flatMap.mp mem
  exact Config.isRecipient_of_mem found

theorem deliver_of_disabled (off : s.enabled = false) :
    s.deliver transport m = { result := .ok none } := by
  rw [deliver, if_pos (by simp [off])]

theorem deliver_of_nobody (on : s.enabled = true) (nobody : s.recipients = []) :
    s.deliver transport m = { result := .error (Mail.failure "no recipients configured" []) } := by
  rw [deliver, if_neg (by simp [on]), if_pos (by simp [nobody])]

theorem deliver_of_recipients (on : s.enabled = true) (some : s.recipients ≠ []) :
    s.deliver transport m =
      { acts := [.submit (s.envelope m)]
        result := (transport (s.envelope m)).map fun () => Option.some s.recipients } := by
  rw [deliver, if_neg (by simp [on]), if_neg (by simpa using some)]

theorem message_recipients (e : Mail.Envelope) :
    e.fields.lookup "To" = some e.recipientText ∧
      ∃ behind, e.message = s!"From: {e.sender}\r\nTo: {e.recipientText}\r\n" ++ behind := by
  have fields : e.fields =
      ("From", e.sender) :: ("To", e.recipientText) :: e.fields.drop 2 := rfl
  let others := (e.fields.drop 2).map fun field =>
    s!"{field.1}: {field.2}{Mail.Envelope.lineBreak}"
  refine ⟨rfl, String.join others ++ Mail.Envelope.lineBreak ++ e.html, ?_⟩
  apply String.toList_inj.mp
  rw [Mail.Envelope.message, Mail.Envelope.header, fields]
  simp [others, Mail.Envelope.lineBreak, toString]

/--
Lists of recipients are put together with a separator between them, and what they are split into are
recipients, from which the list can be put together again. A message that a sink submits names just
the recipients of the sink, and so does its receipt if the submission succeeds. Without recipients
a sink fails, and switched off it succeeds; then nothing is submitted.
-/
theorem recipients_agree (c : MailConfig) (host : String) (transport : Mail.Transport)
    (o : Occasion) (m : Message) :
    (∀ before behind : String,
      splitRecipients (before ++ ";" ++ behind) =
          splitRecipients before ++ splitRecipients behind ∧
        splitRecipients (before ++ "," ++ behind) =
          splitRecipients before ++ splitRecipients behind) ∧
    (∀ text, (∀ r ∈ splitRecipients text, IsRecipient r) ∧
      splitRecipients (", ".intercalate (splitRecipients text)) = splitRecipients text) ∧
    let s := ofConfig c host
    let delivery := (s.toSink transport).deliver o m
    s.recipients = c.recipients.flatMap splitRecipients ∧
    (c.enabled = true → s.recipients ≠ [] →
      ∃ e list, delivery.acts = [.submit e] ∧ e.fields.lookup "To" = some list ∧
        splitRecipients list = s.recipients ∧
        (∃ behind, e.message = s!"From: {e.sender}\r\nTo: {list}\r\n" ++ behind) ∧
        (delivery.result = .ok (some s.recipients) ↔ transport e = .ok ()) ∧
        ∀ f, delivery.result = .error f ↔ transport e = .error f) ∧
    (c.enabled = true → s.recipients = [] →
      delivery.acts = [] ∧ (∃ f, delivery.result = .error f) ∧
        ∀ other, (s.toSink other).deliver o m = delivery) ∧
    (c.enabled = false →
      delivery.acts = [] ∧ delivery.result = .ok none ∧
        ∀ other, (s.toSink other).deliver o m = delivery) := by
  refine ⟨Config.splitRecipients_append, fun text => ?_, ?_⟩
  · have recipients : ∀ r ∈ splitRecipients text, IsRecipient r :=
      fun _ => Config.isRecipient_of_mem
    exact ⟨recipients, Config.splitRecipients_intercalate recipients⟩
  intro s delivery
  refine ⟨rfl, fun on some => ?_, fun on nobody => ?_, fun off => ?_⟩
  · obtain ⟨list, text⟩ := message_recipients (s.envelope m)
    have same : delivery = _ := deliver_of_recipients on some
    refine ⟨s.envelope m, _, by rw [same], list,
      Config.splitRecipients_intercalate (isRecipient_of_ofConfig c host), text, ?_, fun f => ?_⟩
    · rw [same]
      cases transport (s.envelope m) <;> simp [Except.map]
    · rw [same]
      cases transport (s.envelope m) <;> simp [Except.map]
  · have same (other : Mail.Transport) : (s.toSink other).deliver o m = _ :=
      deliver_of_nobody on nobody
    have this : delivery = _ := same transport
    rw [this]
    exact ⟨rfl, ⟨_, rfl⟩, same⟩
  · have same (other : Mail.Transport) : (s.toSink other).deliver o m = _ :=
      deliver_of_disabled off
    have this : delivery = _ := same transport
    rw [this]
    exact ⟨rfl, rfl, same⟩

theorem recipients_agree_of_two_entries :
    let c : MailConfig := { recipients := ["a@x; b@x,", "\u2003Ops <c@x>"] }
    let s := ofConfig c "host"
    let m := Message.ofEvent { source := "s", title := "t" }
    let delivery := (s.toSink fun _ => .ok ()).deliver ⟨.empty, 0⟩ m
    (c.enabled = true ∧ s.recipients = ["a@x", "b@x", "Ops <c@x>"]) ∧
      ∃ e list, delivery.acts = [.submit e] ∧ e.fields.lookup "To" = some list ∧
        splitRecipients list = ["a@x", "b@x", "Ops <c@x>"] ∧
        delivery.result = .ok (some ["a@x", "b@x", "Ops <c@x>"]) := by
  intro c s m delivery
  have three : s.recipients = ["a@x", "b@x", "Ops <c@x>"] := by decide +kernel
  obtain ⟨-, -, -, submits, -⟩ := recipients_agree c "host" (fun _ => .ok ()) ⟨.empty, 0⟩ m
  obtain ⟨e, list, acts, named, split, -, received, -⟩ := submits rfl (by rw [three]; simp)
  rw [three] at split received
  exact ⟨⟨rfl, three⟩, e, list, acts, named, split, received.mpr rfl⟩

end MailSink

end EventRelay
