import EventRelay.Proofs.Connection.Outcome
import EventRelay.Proofs.Connection.Reply
import EventRelay.Sink.Sound

namespace EventRelay

namespace Text

/-- The longest start of a text that has at most so many characters. -/
structure IsLongestStart (limit : Nat) (text start : String) : Prop where
  starts : start.toList <+: text.toList
  fits : start.toList.length ≤ limit
  longest (other : String) : other.toList <+: text.toList → other.toList.length ≤ limit →
    other.toList <+: start.toList

theorem isLongestStart_take (limit : Nat) (text : String) :
    IsLongestStart limit text (String.ofList (text.toList.take limit)) := by
  refine ⟨?_, ?_, fun other starts fits => ?_⟩ <;> rw [String.toList_ofList]
  · exact List.take_prefix _ _
  · exact List.length_take_le _ _
  · exact List.prefix_take_iff.mpr ⟨starts, fits⟩

theorem IsLongestStart.unique {limit : Nat} {text start other : String}
    (h : IsLongestStart limit text start) (h' : IsLongestStart limit text other) :
    start = other := by
  have there := h'.longest start h.starts h.fits
  have back := h.longest other h'.starts h'.fits
  exact String.toList_inj.mp (there.eq_of_length_le back.length_le)

end Text

namespace SoundSink

variable {s : SoundSink} {player : SoundPlayer} {fs : FileSystem} {m : Message}

theorem warningsOf_eq_nil_iff {failed : String} {started : Except String Unit} :
    warningsOf failed started = [] ↔ started = .ok () := by
  cases started with
  | ok u => simp [warningsOf]
  | error cause => simp [warningsOf]

theorem result_deliver : (s.deliver player fs m).result = .ok none := by
  unfold deliver
  split <;> rfl

theorem durationMs_deliver : (s.deliver player fs m).durationMs = 0 := by
  unfold deliver
  split <;> rfl

theorem acts_deliver : (s.deliver player fs m).acts =
    (if s.enabled ∧ fs.exists? s.file then [.play s.file] else []) ++
      if s.enabled ∧ s.sayMessage then [.say (spokenText m.title)] else [] := by
  unfold deliver playback speech
  cases s.enabled with
  | false => rfl
  | true =>
    cases fs.exists? s.file <;> cases s.sayMessage <;> rfl

theorem warnings_deliver : (s.deliver player fs m).warnings = [] ↔ s.enabled →
    (fs.exists? s.file ∧ player.play s.file = .ok ()) ∧
      (s.sayMessage → player.say (spokenText m.title) = .ok ()) := by
  unfold deliver playback speech
  cases s.enabled with
  | false => simp
  | true =>
    cases fs.exists? s.file <;> cases s.sayMessage <;> simp [warningsOf_eq_nil_iff]

end SoundSink

/-- What a configuration asks for when a message is delivered: the sound if there is a file to play,
and the speech in any case. -/
def SoundConfig.asks (c : SoundConfig) (present : Bool) (spoken : String) : List Act :=
  (if c.enabled ∧ present then [.play c.file] else []) ++
    if c.enabled ∧ c.sayMessage then [.say spoken] else []

namespace Handler

variable {h : Handler} {c : SoundConfig} {player : SoundPlayer} {caller : Caller}

/-- Whenever the sink is called, only the append counts for the acknowledgement. -/
theorem deliver_audibly (audible : h.sink = (SoundSink.ofConfig c).toSink player)
    (o : Occasion) (m : Message) :
    let delivery := h.sink.deliver o m
    delivery.acts = c.asks (o.files.exists? c.file) (SoundSink.spokenText m.title) ∧
      delivery.within h.deliveryTimeoutMs h.sink.name = .ok none := by
  intro delivery
  have made : delivery = (SoundSink.ofConfig c).deliver player o.files m := by
    change h.sink.deliver o m = _
    rw [audible]
    rfl
  refine ⟨by rw [made, SoundSink.acts_deliver]; rfl, ?_⟩
  have inTime : delivery.durationMs ≤ h.deliveryTimeoutMs := by
    rw [made, SoundSink.durationMs_deliver]
    exact Nat.zero_le _
  rw [Delivery.within_of_le inTime, made, SoundSink.result_deliver]

theorem Reports.success_iff {logged : Outcome Unit} {ack : Acknowledgement}
    (reports : Reports logged (.ok none) ack) :
    (ack.status = .success ∧ ack.recipients = none ↔ logged = .ok ()) ∧
      (ack.status = .success → ack.recipients = none) := by
  refine ⟨(reports.success none).trans (and_iff_left rfl), fun success => ?_⟩
  obtain ⟨-, delivered⟩ := (reports.success ack.recipients).mp ⟨success, rfl⟩
  exact (Except.ok.inj delivered).symm

/--
A relay with an audible sink tells of a success, without recipients, exactly if it has logged the
event. Whatever the player makes of it, the file is to be played once if it is there, and the
longest start of the title with at most ten characters to be spoken once, as far as each is
configured. So it is at every step that calls the sink, and for a request from its line to its
acknowledgement.
-/
theorem audible_request (c : SoundConfig) (player : SoundPlayer) (h : Handler) (caller : Caller)
    (e : Event) (fs : FileSystem) (audible : h.sink = (SoundSink.ofConfig c).toSink player)
    (accepted : h.Accepts caller e) :
    ∃ spoken, Text.IsLongestStart 10 e.title spoken ∧
      (∀ files logged, h.step caller files (.delivering e logged) =
        { files
          effects := [.delivered (.ofEvent e) (c.asks (files.exists? c.file) spoken)]
          stage := .answering (acknowledge caller logged (.ok none)) }) ∧
      ∃ entry ack, receive caller (h.request caller) = .logging e entry ∧
        let appended := h.log.append entry fs
        let logged : Outcome Unit := appended.map fun _ => ()
        let files := appended.toOption.getD fs
        let asked := c.asks (files.exists? c.file) spoken
        h.handle caller fs =
          { files
            effects := [.logged logged, .delivered (.ofEvent e) asked] ++ (reply caller ack).1
            stage := .ended (reply caller ack).2 } ∧
        (ack.status = .success ∧ ack.recipients = none ↔ ∃ fs', appended = .ok fs') ∧
        (ack.status = .success → ack.recipients = none) ∧
        (caller.TakesReply → Effect.written (h.handle caller fs).effects = ack.encode ∧
          (h.handle caller fs).stage = .ended (.ok (.responded ack))) := by
  have calls := deliver_audibly audible
  refine ⟨_, Text.isLongestStart_take 10 e.title, fun files logged => ?_, ?_⟩
  · obtain ⟨acts, delivered⟩ := calls ⟨files, caller.call⟩ (.ofEvent e)
    simp only [step, acts, delivered]
    rfl
  obtain ⟨text, request, decoded⟩ := accepts_iff.mp accepted
  obtain ⟨entry, received⟩ : ∃ entry, receive caller (h.request caller) = .logging e entry := by
    rw [request, receive, decoded]
    exact ⟨_, rfl⟩
  have handled := handle_received received fs
  obtain ⟨acts, delivered⟩ :=
    calls ⟨(h.log.append entry fs).toOption.getD fs, caller.call⟩ (.ofEvent e)
  simp only [acts, delivered] at handled
  obtain ⟨success, alone⟩ := (reports_acknowledge caller _ (.ok none)).success_iff
  refine ⟨entry, _, received, handled, success.trans ?_, alone, fun takes => ?_⟩
  · cases h.log.append entry fs <;> simp [Except.map]
  · obtain ⟨written, responded⟩ := reply_of_takesReply takes _
    rw [handled]
    refine ⟨Eq.trans ?_ written, congrArg Stage.ended responded⟩
    simp [Effect.written]

theorem audible_request_of_broken_player :
    let c : SoundConfig := { file := ⟨"log"⟩, sayMessage := true }
    let player : SoundPlayer := .ofConfig c fun _ _ => .error "No such file or directory"
    let e : Event := { source := "s", title := "短い通知のタイトルです。長い" }
    let h : Handler :=
      { log := ⟨⟨"log"⟩, .lines, 0, 1⟩
        sink := (SoundSink.ofConfig c).toSink player
        readTimeoutMs := 1
        deliveryTimeoutMs := 1
        bufferSize := (Bytes.ofString e.toValue.text).length }
    let caller : Caller :=
      { name := "client"
        incoming := { reads := [.bytes (.ofString (e.toValue.text ++ "\n"))] }
        receivedAt := 0
        answeredAt := 0 }
    let fs := FileSystem.empty.put (.child .root "log") (.file (.ofString ""))
    h.Accepts caller e ∧ ∃ ack : Acknowledgement, ack.status = .success ∧ ack.recipients = none ∧
      (h.handle caller fs).stage = .ended (.ok (.responded ack)) ∧
      .delivered (.ofEvent e) [.play ⟨"log"⟩, .say "短い通知のタイトルで"] ∈
        (h.handle caller fs).effects := by
  intro c player e h caller fs
  have time : e.TimeFits := by
    intro t given
    cases given
  have request : h.request caller = .line e.toValue.text :=
    Request.ofArrival_text rfl e.feed_not_mem_text e.return_not_mem_text e.isBlankText_text
      (Nat.le_refl _)
  have accepted : h.Accepts caller e :=
    accepts_iff.mpr ⟨_, request, Event.decode_text (by decide +kernel) time⟩
  have holds : h.log.Holds fs [] := ⟨_, (FileSystem.isName_of_plain "log" (by decide)).find rfl⟩
  obtain ⟨spoken, longest, -, entry, ack, -, handled, success, -, replied⟩ :=
    audible_request c player h caller e fs rfl accepted
  obtain ⟨fs', appended, l, found⟩ := holds.append entry
  obtain rfl : spoken = "短い通知のタイトルで" := by
    rw [longest.unique (Text.isLongestStart_take 10 e.title)]
    decide +kernel
  obtain ⟨succeeded, alone⟩ := success.mpr ⟨fs', appended⟩
  have present : fs'.exists? c.file = true := by
    change (fs'.find h.log.path).toOption.isSome = true
    rw [found]
    rfl
  refine ⟨accepted, ack, succeeded, alone, (replied (.inl rfl)).2, ?_⟩
  rw [handled]
  simp [appended, Except.toOption, present, SoundConfig.asks, c]

end Handler

end EventRelay
