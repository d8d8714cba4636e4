import EventRelay.Proofs.Acknowledgement
import EventRelay.Proofs.Connection.Handler

/-!
What one connection has shown when it has come to a stage, however long it rests between its steps
and whatever becomes of the files meanwhile. Main statements: nothing is shown twice, the sink is
not called before the append is over, and a success is not reported without both.
-/

namespace EventRelay

namespace Effect

def isLogged : Effect → Bool
  | .logged _ => true
  | _ => false

def isDelivered : Effect → Bool
  | .delivered .. => true
  | _ => false

def isReplied : Effect → Bool
  | .replied _ => true
  | _ => false

end Effect

namespace Handler

variable {h : Handler} {c : Caller}

/--
What has been shown on the way to a stage. `taken event recipients` says that the sink has taken the
message of the event, which was logged before.
-/
inductive Course (h : Handler) (c : Caller) (taken : Event → Recipients → Prop) :
    Stage → List Effect → Prop
  | waiting : Course h c taken .waiting []
  | logging {event : Event} {entry : LogEntry}
    (accepted : receive c (h.request c) = .logging event entry) :
    Course h c taken (.logging event entry) []
  | writing {event : Event} {entry : LogEntry} {pending : EventLog.Pending}
    (accepted : receive c (h.request c) = .logging event entry) :
    Course h c taken (.writing event pending) []
  | delivering {event : Event} {entry : LogEntry} {logged : Outcome Unit}
    (accepted : receive c (h.request c) = .logging event entry) :
    Course h c taken (.delivering event logged) [.logged logged]
  | refusing {ack : Acknowledgement} (refused : ack.isSuccess = false) :
    Course h c taken (.answering ack) []
  | answering {event : Event} {entry : LogEntry} {logged : Outcome Unit} {acts : List Act}
    {ack : Acknowledgement} (accepted : receive c (h.request c) = .logging event entry)
    (truthful : ack.isSuccess = true → logged = .ok () ∧ taken event ack.recipients) :
    Course h c taken (.answering ack) [.logged logged, .delivered (Message.ofEvent event) acts]
  | ended {ack : Acknowledgement} {shown replies : List Effect} {outcome : Outcome HandleOutcome}
    (before : Course h c taken (.answering ack) shown)
    (complete : replies <+: [.replied ack.encode, .hungUp]) :
    Course h c taken (.ended outcome) (shown ++ replies)
  | abandoned {outcome : Outcome HandleOutcome} : Course h c taken (.ended outcome) []

theorem Course.mono {taken taken' : Event → Recipients → Prop} {stage : Stage}
    {shown : List Effect} (course : Course h c taken stage shown)
    (le : ∀ event recipients, taken event recipients → taken' event recipients) :
    Course h c taken' stage shown := by
  induction course with
  | waiting => exact .waiting
  | logging accepted => exact .logging accepted
  | writing accepted => exact .writing accepted
  | delivering accepted => exact .delivering accepted
  | refusing refused => exact .refusing refused
  | answering accepted truthful =>
    exact .answering accepted fun success => ⟨(truthful success).1, le _ _ (truthful success).2⟩
  | ended _ complete ih => exact .ended ih complete
  | abandoned => exact .abandoned

theorem course_receive (h : Handler) (c : Caller) (taken : Event → Recipients → Prop) :
    Course h c taken (receive c (h.request c)) [] := by
  generalize hr : receive c (h.request c) = stage
  have same := hr
  unfold receive at hr
  split at hr
  · subst hr
    exact .abandoned
  · subst hr
    exact .refusing rfl
  · split at hr
    · subst hr
      exact .refusing rfl
    · subst hr
      exact .logging same

theorem reply_effects (c : Caller) (ack : Acknowledgement) :
    (reply c ack).1 <+: [.replied ack.encode, .hungUp] := by
  unfold reply
  split
  · exact List.nil_prefix
  · exact ⟨[.hungUp], rfl⟩
  · exact ⟨[.hungUp], rfl⟩
  · exact List.prefix_refl _

theorem acknowledge_success {logged : Outcome Unit} {delivered : Outcome Recipients}
    (success : (acknowledge c logged delivered).isSuccess = true) :
    logged = .ok () ∧ delivered = .ok (acknowledge c logged delivered).recipients := by
  unfold acknowledge at success ⊢
  split at success
  · cases success
  · cases success
  · exact ⟨rfl, rfl⟩

theorem Course.step {taken : Event → Recipients → Prop} {stage : Stage} {shown : List Effect}
    (course : Course h c taken stage shown) (fs : FileSystem)
    (now : ∀ event recipients, stage = .delivering event (.ok ()) →
      (h.sink.deliver ⟨fs, c.call⟩ (Message.ofEvent event)).within h.deliveryTimeoutMs
        h.sink.name = .ok recipients → taken event recipients) :
    Course h c taken (h.step c fs stage).stage (shown ++ (h.step c fs stage).effects) := by
  cases course with
  | waiting =>
    rw [step_waiting]
    exact course_receive h c taken
  | @logging event entry accepted =>
    rw [Handler.step]
    split
    · exact .delivering accepted
    · exact .writing accepted
  | writing accepted => exact .delivering accepted
  | delivering accepted =>
    refine .answering accepted fun success => ?_
    obtain ⟨rfl, delivered⟩ := acknowledge_success success
    exact ⟨rfl, now _ _ rfl delivered⟩
  | refusing refused => exact .ended (.refusing refused) (reply_effects c _)
  | answering accepted truthful => exact .ended (.answering accepted truthful) (reply_effects c _)
  | ended before complete =>
    change Course h c taken _ ((_ ++ _) ++ [])
    rw [List.append_nil]
    exact .ended before complete
  | abandoned => exact .abandoned

variable {taken : Event → Recipients → Prop} {stage : Stage} {shown : List Effect}

theorem Course.prefix (course : Course h c taken stage shown) :
    (∃ logged message acts line,
      shown <+: [.logged logged, .delivered message acts, .replied line, .hungUp]) ∨
    ∃ line, shown <+: [.replied line, .hungUp] := by
  have nothing : ∃ line, [] <+: [Effect.replied line, .hungUp] := ⟨"", List.nil_prefix⟩
  cases course with
  | waiting => exact .inr nothing
  | logging accepted => exact .inr nothing
  | writing accepted => exact .inr nothing
  | @delivering event entry logged accepted =>
    exact .inl ⟨logged, Message.ofEvent event, [], "", _, rfl⟩
  | refusing refused => exact .inr nothing
  | @answering event entry logged acts ack accepted truthful =>
    exact .inl ⟨logged, Message.ofEvent event, acts, "", _, rfl⟩
  | @ended ack shown replies outcome before complete =>
    cases before with
    | refusing refused => exact .inr ⟨_, complete⟩
    | @answering event entry logged acts _ accepted truthful =>
      refine .inl ⟨logged, Message.ofEvent event, acts, ack.encode, ?_⟩
      exact (List.prefix_append_right_inj [.logged logged, .delivered _ acts]).mpr complete
  | abandoned => exact .inr nothing

theorem Course.accepted {event : Event} {entry : LogEntry}
    (course : Course h c taken (.logging event entry) shown) :
    receive c (h.request c) = .logging event entry := by
  cases course with
  | logging accepted => exact accepted

theorem Course.shown_delivering {event : Event} {logged : Outcome Unit}
    (course : Course h c taken (.delivering event logged) shown) : shown = [.logged logged] := by
  cases course
  rfl

theorem Course.once (course : Course h c taken stage shown) :
    shown.countP Effect.isLogged ≤ 1 ∧ shown.countP Effect.isDelivered ≤ 1 ∧
      shown.countP Effect.isReplied ≤ 1 := by
  obtain ⟨logged, message, acts, line, accepted⟩ | ⟨line, refused⟩ := course.prefix
  · exact ⟨accepted.sublist.countP_le, accepted.sublist.countP_le, accepted.sublist.countP_le⟩
  · have counts := fun p => refused.sublist.countP_le (p := p)
    exact ⟨Nat.le_trans (counts _) (by simp [Effect.isLogged]),
      Nat.le_trans (counts _) (by simp [Effect.isDelivered]), counts _⟩

theorem Course.logged_before (course : Course h c taken stage shown) {before after : List Effect}
    {message : Message} {acts : List Act}
    (shows : shown = before ++ .delivered message acts :: after) :
    ∃ result, .logged result ∈ before := by
  subst shows
  obtain ⟨logged, message', acts', line, accepted⟩ | ⟨line, refused⟩ := course.prefix
  · cases before with
    | nil =>
      have := (List.cons_prefix_cons.mp accepted).1
      cases this
    | cons first before =>
      obtain ⟨rfl, -⟩ := List.cons_prefix_cons.mp accepted
      exact ⟨logged, List.mem_cons_self⟩
  · have := refused.subset (List.mem_append_right before List.mem_cons_self)
    simp at this

theorem Course.success (course : Course h c taken stage shown) {line : String}
    (replied : .replied line ∈ shown) {ack : Acknowledgement}
    (decoded : Acknowledgement.decode line = .ok ack) (success : ack.isSuccess = true) :
    ∃ event acts rest, taken event ack.recipients ∧ shown =
      [.logged (.ok ()), .delivered (Message.ofEvent event) acts, .replied line] ++ rest := by
  cases course with
  | waiting => cases replied
  | logging accepted => cases replied
  | writing accepted => cases replied
  | delivering accepted => simp at replied
  | refusing refused => cases replied
  | answering accepted truthful => simp at replied
  | @ended ack' shown replies outcome before complete =>
    have within : .replied line ∈ replies := by
      cases before with
      | refusing refused => exact replied
      | answering accepted truthful => simpa using replied
    obtain ⟨rfl⟩ : line = ack'.encode := by simpa using complete.subset within
    rw [Acknowledgement.decode_encode] at decoded
    cases decoded
    cases before with
    | refusing refused =>
      rw [refused] at success
      cases success
    | @answering event entry logged acts _ accepted truthful =>
      obtain ⟨rfl, taken⟩ := truthful success
      cases replies with
      | nil => cases within
      | cons first rest =>
        obtain ⟨rfl, -⟩ := List.cons_prefix_cons.mp complete
        exact ⟨event, acts, rest, taken, rfl⟩
  | abandoned => cases replied

theorem Course.entry_of_logged (course : Course h c taken stage shown) {result : Outcome Unit}
    (logged : .logged result ∈ shown) : ∃ entry, h.entryOf? c = some entry := by
  cases course with
  | waiting => cases logged
  | logging accepted => cases logged
  | writing accepted => cases logged
  | delivering accepted => exact ⟨_, entryOf?_of_accepted accepted⟩
  | refusing refused => cases logged
  | answering accepted truthful => exact ⟨_, entryOf?_of_accepted accepted⟩
  | @ended ack shown replies outcome before complete =>
    cases before with
    | refusing refused =>
      have := complete.subset logged
      simp at this
    | answering accepted truthful => exact ⟨_, entryOf?_of_accepted accepted⟩
  | abandoned => cases logged

end Handler

end EventRelay
