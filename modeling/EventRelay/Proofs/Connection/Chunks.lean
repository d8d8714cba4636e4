import EventRelay.Proofs.Connection.Reply

namespace EventRelay

theorem Arrives.ofReads {reads : List Read} {ms : Nat} {bytes : Bytes} (h : Arrives reads ms bytes)
    (staysOpen : Bool) :
    Arrival.ofReads staysOpen ms reads = ⟨bytes, if staysOpen then .late else .closed⟩ := by
  induction reads generalizing ms bytes with
  | nil =>
    rw [nil_iff.mp h]
    rfl
  | cons r reads ih =>
    cases r with
    | bytes data =>
      obtain ⟨rest, rfl, later⟩ := bytes_iff.mp h
      rw [Arrival.ofReads, ih later]
      rfl
    | wait pause =>
      obtain ⟨fits, later⟩ := wait_iff.mp h
      rw [Arrival.ofReads, if_neg (Nat.not_lt_of_le fits), ih later]
    | fail invalid cause => exact (not_fail h).elim

namespace Request

def ofBytes (limit : Nat) (staysOpen : Bool) (bytes : Bytes) : Request :=
  .ofArrival limit ⟨bytes, if staysOpen then .late else .closed⟩

variable {limit : Nat} {staysOpen : Bool} {bytes line : Bytes}

theorem ofBytes_line (first : lineFeed ∉ line) (short : line.length ≤ limit) (staysOpen : Bool)
    (more : Bytes) : ofBytes limit staysOpen (line ++ lineFeed :: more) = ofLine line :=
  ofArrival_line rfl first short

theorem ofBytes_rest (unfed : lineFeed ∉ bytes) (short : bytes.length ≤ limit)
    (staysOpen : Bool) :
    ofBytes limit staysOpen bytes = if staysOpen then .none .readTimeout else ofLine bytes := by
  rw [ofBytes, ofArrival_rest unfed short]
  cases staysOpen with
  | true => rfl
  | false => exact ofRest_closed bytes

theorem ofLine_ne_tooLarge (line : Bytes) : ofLine line ≠ .refused tooLarge := by
  unfold ofLine
  split
  · intro same
    injection same with same
    injection same with reason
    revert reason
    decide
  · split <;> exact fun same => by cases same

theorem ofBytes_eq_tooLarge : ofBytes limit staysOpen bytes = .refused tooLarge ↔
    limit < bytes.length ∧ lineFeed ∉ bytes.take (limit + 1) := by
  constructor
  · intro refused
    have framed := framed_ofArrival limit ⟨bytes, if staysOpen then .late else .closed⟩
    rw [← ofBytes, refused] at framed
    generalize same : Request.refused tooLarge = r at framed
    cases framed with
    | line => exact absurd same.symm (ofLine_ne_tooLarge _)
    | tooLarge long unfed => exact ⟨long, unfed⟩
    | rest unfed short =>
      rw [ofBytes_rest unfed short] at refused
      split at refused
      · cases refused
      · exact absurd refused (ofLine_ne_tooLarge _)
  · rintro ⟨long, unfed⟩
    exact ofArrival_tooLarge long unfed

theorem ofArrival_behind {a b : Arrival} {more more' : Bytes} (first : lineFeed ∉ line)
    (ha : a.bytes = line ++ lineFeed :: more) (hb : b.bytes = line ++ lineFeed :: more')
    (limit : Nat) : ofArrival limit a = ofArrival limit b := by
  by_cases short : line.length ≤ limit
  · rw [ofArrival_line ha first short, ofArrival_line hb first short]
  · have long := Nat.lt_of_not_le short
    have refused {a : Arrival} {more : Bytes} (bytes : a.bytes = line ++ lineFeed :: more) :
        ofArrival limit a = .refused tooLarge := by
      refine ofArrival_tooLarge ?_ ?_ <;> rw [bytes]
      · rw [List.length_append]
        exact Nat.lt_add_right _ long
      · rw [List.take_append_of_le_length long]
        exact fun inside => first (List.mem_of_mem_take inside)
    rw [refused ha, refused hb]

theorem withoutReturn_concat (line : Bytes) : withoutReturn (line ++ [13]) = line := by
  rw [withoutReturn, List.getLast?_concat, if_pos rfl, List.dropLast_concat]

theorem withoutReturn_of_ne (none : line.getLast? ≠ some 13) : withoutReturn line = line :=
  if_neg none

end Request

namespace Handler

variable {h : Handler} {c : Caller}

def answer (h : Handler) (c : Caller) (fs : FileSystem) (request : Request) : Step :=
  h.run c { files := fs, stage := receive c request } 4

theorem handle_eq_answer (h : Handler) (c : Caller) (fs : FileSystem) :
    h.handle c fs = h.answer c fs (h.request c) := by
  change h.run c _ 5 = _
  rw [run, step_waiting]
  rfl

theorem receive_ne_waiting (request : Request) : receive c request ≠ .waiting := by
  unfold receive
  split
  · rintro ⟨⟩
  · rintro ⟨⟩
  · split <;> rintro ⟨⟩

theorem step_ne_waiting (fs : FileSystem) (stage : Stage) :
    (h.step c fs stage).stage ≠ .waiting := by
  cases stage with
  | waiting =>
    rw [step_waiting]
    exact receive_ne_waiting _
  | logging event entry =>
    rw [step]
    split <;> rintro ⟨⟩
  | writing | delivering | answering | ended => rintro ⟨⟩

theorem run_sending (i : Incoming) (n : Nat) {s : Step} (received : s.stage ≠ .waiting) :
    h.run { c with incoming := i } s n = h.run c s n := by
  induction n generalizing s with
  | zero => rfl
  | succ n ih =>
    have same : h.step { c with incoming := i } s.files s.stage = h.step c s.files s.stage := by
      generalize s.stage = stage at received
      cases stage with
      | waiting => exact absurd rfl received
      | _ => rfl
    rw [run, run, same]
    exact ih (step_ne_waiting _ _)

theorem answer_sending (i : Incoming) (fs : FileSystem) (request : Request) :
    h.answer { c with incoming := i } fs request = h.answer c fs request :=
  run_sending i 4 (receive_ne_waiting request)

theorem request_of_arrives {i : Incoming} {bytes : Bytes}
    (arrives : Arrives i.reads h.readTimeoutMs bytes) :
    h.request { c with incoming := i } = .ofBytes h.bufferSize i.staysOpen bytes := by
  rw [request, Request.ofBytes, ← arrives.ofReads i.staysOpen]
  rfl

theorem answer_refused (fs : FileSystem) (f : Failure) :
    h.answer c fs (.refused f) =
      let ack := Acknowledgement.error f.ackMessage c.answeredAt
      { files := fs, effects := (reply c ack).1, stage := .ended (reply c ack).2 } :=
  run_ended _ _ _ 3

open Request (lineFeed)

/--
A connection on which `bytes` are sent in time, in whatever pieces, comes to what these bytes make
of it. They are refused as too large exactly if there are more of them than the limit and the line
is not complete one byte behind it; a line that is not too long is the request, also if the
connection is closed in place of the line feed, whatever is sent behind it; and one carriage return
does not belong to the line.
-/
theorem handle_of_pieces {cfg : ServerConfig} {i : Incoming} {bytes : Bytes}
    (arrives : Arrives i.reads cfg.readTimeoutMs bytes) (log : EventLog) (sink : Sink) (c : Caller)
    (fs : FileSystem) :
    let h := Handler.ofConfig cfg log sink
    let limit := max cfg.bufferSize 1
    let request := Request.ofBytes limit i.staysOpen bytes
    h.handle { c with incoming := i } fs = h.answer c fs request ∧
    (request = .refused Request.tooLarge ↔
      limit < bytes.length ∧ lineFeed ∉ bytes.take (limit + 1)) ∧
    (request = .refused Request.tooLarge →
      let ack := Acknowledgement.error "Invalid data: request too large" c.answeredAt
      h.handle { c with incoming := i } fs =
        { files := fs, effects := (reply c ack).1, stage := .ended (reply c ack).2 }) ∧
    (∀ line more, bytes = line ++ lineFeed :: more → lineFeed ∉ line →
      (line.length ≤ limit → request = .ofLine line) ∧
      ∀ (j : Incoming) (early late : List Read) (more' : Bytes), j.reads = early ++ late →
        Arrives early cfg.readTimeoutMs (line ++ lineFeed :: more') →
        h.handle { c with incoming := j } fs = h.handle { c with incoming := i } fs) ∧
    (lineFeed ∉ bytes → bytes.length ≤ limit →
      request = if i.staysOpen then .none .readTimeout else .ofLine bytes) ∧
    ∀ line text, Bytes.toString? line = some text → Text.isBlankText text = false →
      Request.ofLine (line ++ [13]) = .line text ∧
      (line.getLast? ≠ some 13 → Request.ofLine line = .line text) := by
  intro h limit request
  have handled : h.handle { c with incoming := i } fs = h.answer c fs request := by
    rw [handle_eq_answer, request_of_arrives arrives, answer_sending]
    rfl
  refine ⟨handled, Request.ofBytes_eq_tooLarge, ?_, ?_, ?_, ?_⟩
  · intro refused
    rw [handled, refused, answer_refused]
    rfl
  · rintro line more rfl first
    refine ⟨fun short => Request.ofBytes_line first short _ _, ?_⟩
    intro j early late more' split early_arrives
    obtain ⟨others, behind⟩ := early_arrives.bytes_ofReads j.staysOpen late
    rw [handle_eq_answer, handled, answer_sending]
    have sent : (j.within h.readTimeoutMs).bytes = line ++ lineFeed :: (more' ++ others) := by
      rw [Incoming.within, split]
      refine behind.trans ?_
      rw [List.append_assoc, List.cons_append]
    exact congrArg (h.answer c fs) (Request.ofArrival_behind first sent rfl limit)
  · exact fun unfed short => Request.ofBytes_rest unfed short _
  · intro line text written shown
    refine ⟨?_, fun none => ?_⟩
    · exact Request.ofLine_text (by rw [Request.withoutReturn_concat, written]) shown
    · exact Request.ofLine_text (by rw [Request.withoutReturn_of_ne none, written]) shown

theorem handle_of_pieces_at_limit :
    let cfg : ServerConfig := { bufferSize := 0, readTimeoutMs := 1 }
    let h := Handler.ofConfig cfg ⟨⟨"/log"⟩, .lines, 0, 1⟩
      { name := "mail", deliver := fun _ _ => { result := .ok none } }
    let i : Incoming := { reads := [.bytes [120], .wait 1, .bytes [10, 121]], staysOpen := true }
    let c : Caller := { name := "client", incoming := i, receivedAt := 0, answeredAt := 0 }
    Arrives i.reads cfg.readTimeoutMs [120, 10, 121] ∧
      h.handle c .empty = h.answer c .empty (.line "x") := by
  intro cfg h i c
  have arrives : Arrives i.reads cfg.readTimeoutMs [120, 10, 121] :=
    ⟨rfl, by simp [i, Read.isFailure], by decide⟩
  obtain ⟨handled, -, -, lines, -, texts⟩ := handle_of_pieces arrives
    ⟨⟨"/log"⟩, .lines, 0, 1⟩ { name := "mail", deliver := fun _ _ => { result := .ok none } } c
    .empty
  have line := (lines [120] [121] rfl (by decide)).1 (by decide)
  have text : Request.ofLine [120] = .line "x" := by
    refine (texts [120] "x" ?_ (by decide)).2 (by decide)
    rw [show ([120] : Bytes) = Bytes.ofString "x" by decide +kernel, Bytes.toString?_ofString]
  rw [line, text] at handled
  exact ⟨arrives, handled⟩

end Handler

end EventRelay
