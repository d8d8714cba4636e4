import EventRelay.Proofs.Event.Wire
import EventRelay.Proofs.Json.Results
import EventRelay.Proofs.Text.Lines

namespace EventRelay.Event

open Json

variable {e : Event}

theorem isLine_encode (e : Event) (now : Int) : Text.IsLine (e.encode now) :=
  ⟨(e.stamped now).toValue.text, rfl, feed_not_mem_text _, return_not_mem_text _⟩

theorem trimList_encode (e : Event) (now : Int) :
    Text.trimList (e.encode now).toList = (e.stamped now).toValue.text.toList := by
  rw [encode, String.toList_append, toList_text]
  exact trimList_object_feed _

theorem TimeFits.stamped (h : e.TimeFits) {now : Int} (clock : IsInt64 now) :
    (e.stamped now).TimeFits := by
  intro t ht
  cases ht
  cases time : e.timestamp with
  | none => exact clock
  | some t => exact h t time

theorem decode_encode (h : e.TimeFits) {now : Int} (clock : IsInt64 now) :
    decode (e.encode now) = e.validate.map fun _ => e.stamped now :=
  decode_of_trimList (e.trimList_encode now) (h.stamped clock)

def Known.TimeFits (k : Known) : Prop := ∀ o ∈ k.timestamp, ∀ t ∈ o, IsInt64 t

theorem gives_readField (key : String) (k : Known) (h : k.TimeFits) :
    Gives (readField key k) Known.TimeFits := by
  intro s k' rest taken
  unfold readField at taken
  split at taken
  · exact (gives_trivial _).map (fun v => { k with source := v }) (fun _ _ => h) taken
  · exact (gives_trivial _).map (fun v => { k with title := v }) (fun _ _ => h) taken
  · exact (gives_trivial _).map (fun v => { k with details := v }) (fun _ _ => h) taken
  · exact (gives_trivial _).map (fun v => { k with tag := v }) (fun _ _ => h) taken
  · exact (gives_trivial _).map (fun v => { k with level := v }) (fun _ _ => h) taken
  · exact (gives_int64.optional.once _ _).map (fun v => { k with timestamp := v })
      (fun _ time => time) taken
  · obtain ⟨t, -, taken⟩ := bind_eq_ok.mp taken
    obtain ⟨u, -, same⟩ := bind_eq_ok.mp taken
    cases same
    exact h

theorem Known.TimeFits.toEvent? {k : Known} (h : k.TimeFits) (made : k.toEvent? = some e) :
    e.TimeFits := by
  obtain ⟨title, -, rfl⟩ := Option.map_eq_some_iff.mp made
  intro t ht
  cases time : k.timestamp with
  | none =>
    rw [time] at ht
    cases ht
  | some o =>
    rw [time] at ht
    exact h o time t ht

theorem gives_readNamed : Gives readNamed TimeFits := by
  intro s e rest taken
  have nothing : ({} : Known).TimeFits := by
    intro o ho
    cases ho
  obtain ⟨⟨k, t⟩, members, taken⟩ := bind_eq_ok.mp taken
  dsimp only at taken
  split at taken
  · next made =>
    cases taken
    exact (Gives.members gives_readField _ _ nothing members).toEvent? made
  · cases taken

theorem gives_readPositional : Gives readPositional TimeFits := by
  intro s e rest taken
  obtain ⟨⟨source, s⟩, -, taken⟩ := bind_eq_ok.mp taken
  obtain ⟨⟨title, s⟩, -, taken⟩ := bind_eq_ok.mp taken
  cases title with
  | none => cases taken
  | some title =>
    obtain ⟨⟨details, s⟩, -, taken⟩ := bind_eq_ok.mp taken
    obtain ⟨⟨tag, s⟩, -, taken⟩ := bind_eq_ok.mp taken
    obtain ⟨⟨level, s⟩, -, taken⟩ := bind_eq_ok.mp taken
    obtain ⟨⟨time, s⟩, step, taken⟩ := bind_eq_ok.mp taken
    have fits := gives_int64.optional.next false step
    cases taken
    intro t ht
    cases time with
    | none => cases ht
    | some o => exact fits o rfl t ht

theorem gives_read : Gives read TimeFits := gives_readPositional.record gives_readNamed _

theorem decode_eq_ok {line : String} (h : decode line = .ok e) :
    e.validate = .ok () ∧ e.TimeFits := by
  unfold decode at h
  dsimp only at h
  split at h
  · cases h
  · split at h
    · cases h
    · next e' whole =>
      obtain ⟨_, valid, same⟩ := bind_eq_ok.mp h
      cases same
      exact ⟨valid, gives_read.whole whole⟩

/--
An event is written on one line at a time that 64 bits can hold. If its own time fits as well, it is
read back with its time filled in, unless it names no source; and this holds of every event that
was itself read from a line, whatever that line looked like.
-/
theorem line_round_trip (e : Event) {now : Int} (clock : IsInt64 now) :
    Text.IsLine (e.encode now) ∧
    (e.TimeFits → decode (e.encode now) =
      if Text.isBlankText e.source then .error (.protocol "missing program_name" [])
      else .ok (e.stamped now)) ∧
    ∀ line, decode line = .ok e → decode (e.encode now) = .ok (e.stamped now) := by
  refine ⟨e.isLine_encode now, ?_, ?_⟩
  · intro time
    rw [decode_encode time clock, validate]
    split <;> rfl
  · intro line read
    obtain ⟨valid, time⟩ := decode_eq_ok read
    rw [decode_encode time clock, valid]
    rfl

theorem line_round_trip_of_awkward :
    let e : Event :=
      { source := "a\"\\\x01", title := "\r\n😀", details := "", tag := some ""
        timestamp := some (-9223372036854775808) }
    decode (e.encode 0) = .ok e ∧ decode (e.encode 7) = .ok e := by
  intro e
  have time : e.TimeFits := by
    intro t ht
    cases ht
    decide
  have named : Text.isBlankText e.source = false := by decide +kernel
  have first : decode (e.encode 0) = .ok e := by
    rw [(line_round_trip e (by decide : IsInt64 0)).2.1 time, named]
    rfl
  exact ⟨first, (line_round_trip e (by decide : IsInt64 7)).2.2 (e.encode 0) first⟩

end EventRelay.Event
