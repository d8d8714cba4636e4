import EventRelay.Proofs.Connection.Reply
import EventRelay.Proofs.Connection.Steps
import EventRelay.Proofs.Json.Closing

namespace EventRelay

namespace Event

open Json

theorem balances_level : Balances readLevel := (balances_text _).map Level.ofName

theorem balances_field (key : String) (k : Known) : Balances (readField key k) := by
  unfold readField
  split
  · exact ((balances_text _).once _ _).map fun v => { k with source := v }
  · exact ((balances_text _).once _ _).map fun v => { k with title := v }
  · exact ((balances_text _).once _ _).map fun v => { k with details := v }
  · exact ((balances_text _).optional.once _ _).map fun v => { k with tag := v }
  · exact (balances_level.once _ _).map fun v => { k with level := v }
  · exact (balances_int64.optional.once _ _).map fun v => { k with timestamp := v }
  · exact keeps_readColon.bind (keeps_skipValue.bind (balances_done k))

theorem balances_named : Balances readNamed := by
  intro s a h
  obtain ⟨⟨known, t⟩, members, h⟩ := bind_eq_ok.mp h
  dsimp only at h
  split at h
  · cases h
    exact Balances.members balances_field _ _ _ members
  · cases h

theorem balances_positional : Balances readPositional := by
  refine ((balances_text _).next true).then fun source => ?_
  refine ((balances_text _).next _).then fun title => ?_
  cases title with
  | none => exact keeps_error _
  | some title =>
    refine ((balances_text _).next false).then fun details => ?_
    refine ((balances_text _).optional.next false).then fun tag => ?_
    refine (balances_level.next false).then fun level => ?_
    exact (balances_int64.optional.next false).then fun timestamp => balances_done _

theorem closesFirst_read : ClosesFirst Event.read :=
  closesFirst_record balances_positional balances_named typeName

theorem readWhole_of_decode {line : String} {e : Event} (accepted : decode line = .ok e) :
    Text.trimList line.toList ≠ [] ∧ readWhole Event.read (Text.trimList line.toList) = .ok e := by
  unfold decode at accepted
  dsimp only at accepted
  split at accepted
  · cases accepted
  · next full =>
    refine ⟨fun nothing => full (List.isEmpty_iff.mpr nothing), ?_⟩
    split at accepted
    · cases accepted
    · next e' read =>
      obtain ⟨_, -, same⟩ := bind_eq_ok.mp accepted
      cases same
      exact read

theorem eq_nil_of_decode {line : String} {e e' : Event} (accepted : decode line = .ok e)
    {part more : List Char} (split : Text.trimEnd line.toList = part ++ more)
    (part_accepted : decode (String.ofList part) = .ok e') : more = [] := by
  obtain ⟨-, whole⟩ := readWhole_of_decode accepted
  obtain ⟨shown, begun⟩ := readWhole_of_decode part_accepted
  rw [String.toList_ofList] at shown begun
  obtain ⟨blanks, blank, trimmed⟩ := Text.exists_trimmed (Text.trimStart part)
  have text : Text.trimList line.toList = Text.trimList part ++ (blanks ++ more) := by
    have started : Text.trimStart part ≠ [] := by
      intro nothing
      rw [Text.trimList, nothing] at shown
      exact shown rfl
    rw [Text.trimList, ← Text.trimStart_trimEnd, split, Text.trimStart, List.dropWhile_append,
      if_neg (by simpa [Text.trimStart] using started), ← Text.trimStart, trimmed,
      List.append_assoc]
    rfl
  rw [text] at whole
  have space := closesFirst_read.space_of_append begun whole
  have behind : (blanks ++ more).all Text.isBlank = true := by
    rw [List.all_eq_true]
    intro c hc
    exact isBlank_of_isSpace (List.dropWhile_eq_nil_iff.mp space c hc)
  have nothing := Text.eq_nil_of_trimmed (by rw [← text, Text.trimList, Text.trimEnd_trimEnd]) behind
  exact (List.append_eq_nil_iff.mp nothing).2

end Event

namespace Incoming

variable {i : Incoming} {ms limit : Nat} {line : Bytes}

theorem prefix_of_offers (offered : i.Offers ms limit line) :
    line <+: i.reads.flatMap Read.data := by
  cases offered with
  | line complete =>
    obtain ⟨-, -, early, late, more, split, arrives⟩ := complete
    rw [split, List.flatMap_append, arrives.whole, List.append_assoc]
    exact List.prefix_append _ _
  | rest closes =>
    obtain ⟨-, -, -, arrives⟩ := closes
    exact ⟨[], (List.append_nil line).trans arrives.whole.symm⟩

end Incoming

theorem Request.withoutReturn_prefix (line : Bytes) : withoutReturn line <+: line := by
  unfold withoutReturn
  split
  · exact List.dropLast_prefix line
  · exact List.prefix_refl line

namespace Handler

variable {h : Handler} {c : Caller} {line : String} {e : Event} {missing : Bytes}

theorem not_accepts_of_missing (accepted : Event.decode line = .ok e)
    (sent : c.incoming.reads.flatMap Read.data ++ missing =
      Bytes.ofString (String.ofList (Text.trimEnd line.toList)))
    (cut : missing ≠ []) (e' : Event) : ¬ h.Accepts c e' := by
  rintro ⟨offered, text, offers, written, decoded⟩
  obtain ⟨behind, bytes⟩ := (Request.withoutReturn_prefix offered).trans
    (Incoming.prefix_of_offers offers)
  rw [← bytes, ← Bytes.ofString_of_toString? written, List.append_assoc] at sent
  obtain ⟨more, split⟩ := Bytes.prefix_of_ofString_append sent
  rw [String.toList_ofList] at split
  rw [← String.ofList_toList (s := text)] at decoded
  have whole := Event.eq_nil_of_decode accepted split.symm decoded
  rw [← split, whole, List.append_nil, String.ofList_toList] at sent
  exact cut (List.append_eq_nil_iff.mp (List.append_right_eq_self.mp sent)).2

theorem Course.unlogged {taken : Event → Recipients → Prop} {stage : Stage} {shown : List Effect}
    (rejected : ∀ e, ¬ h.Accepts c e) (course : Course h c taken stage shown) :
    (∀ result, .logged result ∉ shown) ∧ ∀ message acts, .delivered message acts ∉ shown := by
  have unlogged (result : Outcome Unit) : .logged result ∉ shown := by
    intro logged
    obtain ⟨entry, taken⟩ := course.entry_of_logged logged
    unfold entryOf? at taken
    rcases receive_rejected rejected with ⟨why, none⟩ | ⟨f, -, received⟩
    · rw [none] at taken
      cases taken
    · rw [received] at taken
      cases taken
  refine ⟨unlogged, fun message acts delivered => ?_⟩
  obtain ⟨before, after, shows⟩ := List.append_of_mem delivered
  obtain ⟨result, logged⟩ := course.logged_before shows
  exact unlogged result (shows ▸ List.mem_append_left _ logged)

theorem files_of_rejected (rejected : ∀ e, ¬ h.Accepts c e) (fs : FileSystem) :
    (h.handle c fs).files = fs := by
  rcases receive_rejected rejected with ⟨why, none⟩ | ⟨f, -, received⟩
  · rw [handle_none none]
  · rw [handle_refused received]

/--
Where a line is accepted, no beginning of its trimmed text is, and nothing that continues this text
by more than blanks. A connection on which the end of this text is missing, be it one byte of a
character, has nothing logged and nothing delivered, neither when it is served alone nor at any
stage of a run among others.
-/
theorem accepted_only_whole (accepted : Event.decode line = .ok e) :
    (∀ part more, Text.trimList line.toList = part ++ more → more ≠ [] →
      ∀ e', Event.decode (String.ofList part) ≠ .ok e') ∧
    (∀ more, more.all Text.isBlank = false →
      ∀ e', Event.decode (String.ofList (Text.trimList line.toList ++ more)) ≠ .ok e') ∧
    ∀ (h : Handler) (c : Caller) (missing : Bytes), missing ≠ [] →
      c.incoming.reads.flatMap Read.data ++ missing =
        Bytes.ofString (String.ofList (Text.trimEnd line.toList)) →
      (∀ fs, (h.handle c fs).files = fs ∧
        (∀ result, .logged result ∉ (h.handle c fs).effects) ∧
        ∀ message acts, .delivered message acts ∉ (h.handle c fs).effects) ∧
      ∀ taken stage shown, h.Course c taken stage shown →
        (∀ result, .logged result ∉ shown) ∧ ∀ message acts, .delivered message acts ∉ shown := by
  have trimmed : Event.decode (String.ofList (Text.trimList line.toList)) = .ok e := by
    unfold Event.decode at accepted ⊢
    rwa [String.toList_ofList, Text.trimList_trimList]
  refine ⟨?_, ?_, ?_⟩
  · intro part more split cut e' part_accepted
    refine cut (Event.eq_nil_of_decode trimmed ?_ part_accepted)
    rw [String.toList_ofList, Text.trimList, Text.trimEnd_trimEnd]
    exact split
  · intro more shown e' longer
    have split := Text.trimEnd_append_of_shown shown (Text.trimList line.toList)
    rw [← String.toList_ofList (l := _ ++ more)] at split
    have nothing := Event.eq_nil_of_decode longer split trimmed
    obtain ⟨blanks, blank, whole⟩ := Text.exists_trimmed more
    rw [whole, nothing, List.nil_append, blank] at shown
    cases shown
  · intro h c missing cut sent
    have rejected := not_accepts_of_missing (h := h) accepted sent cut
    exact ⟨fun fs => ⟨files_of_rejected rejected fs, (serve_course 5).unlogged rejected⟩,
      fun _ _ _ course => course.unlogged rejected⟩

theorem accepted_only_whole_of_half_character :
    let begun := "\x7b\"source\":\"s\",\"tags\":[[],\x7b\x7d],\"title\":\"\\\"\x7d]é"
    let line := begun ++ "\"\x7d \n"
    let h : Handler :=
      { log := ⟨⟨"/log"⟩, .lines, 0, 1⟩
        sink := { name := "mail", deliver := fun _ _ => { result := .ok none } }
        readTimeoutMs := 1
        deliveryTimeoutMs := 1
        bufferSize := 100 }
    let c : Caller :=
      { name := "client", incoming := { reads := [.bytes (Bytes.ofString begun).dropLast] }
        receivedAt := 0, answeredAt := 0 }
    Event.decode line = .ok { source := "s", title := "\"\x7d]é" } ∧
      (h.handle c .empty).files = .empty ∧
      (∀ result, .logged result ∉ (h.handle c .empty).effects) ∧
      ∀ message acts, .delivered message acts ∉ (h.handle c .empty).effects := by
  intro begun line h c
  have accepted : Event.decode line = .ok { source := "s", title := "\"\x7d]é" } := by
    have computed :
        (Event.decode line).toOption = some { source := "s", title := "\"\x7d]é" } := by
      decide +kernel
    cases decoded : Event.decode line with
    | error f => simp [decoded, Except.toOption] at computed
    | ok e => simpa [decoded, Except.toOption] using computed
  have sent : c.incoming.reads.flatMap Read.data ++ [169, 34, 125] =
      Bytes.ofString (String.ofList (Text.trimEnd line.toList)) := by decide +kernel
  exact ⟨accepted, ((accepted_only_whole accepted).2.2 h c _ (by simp) sent).1 .empty⟩

end Handler

end EventRelay
