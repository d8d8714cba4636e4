import EventRelay.Connection.LineReader
import EventRelay.Proofs.Connection.Framing

namespace EventRelay

namespace LineReader

open Request (lineFeed)

/-- The reader has looked at all of its buffer and found no line and nothing too long. -/
structure Idle (r : LineReader) : Prop where
  unfed : lineFeed ∉ r.buffer
  short : r.buffer.length ≤ r.limit
  searched : r.searched = r.buffer.length

theorem idle_start (limit : Nat) : Idle { limit } :=
  ⟨List.not_mem_nil, Nat.zero_le _, rfl⟩

variable {r : LineReader} {data : Bytes}

inductive Pushed (r : LineReader) (data : Bytes) : Progress → Prop
  | line {line more : Bytes} (cut : r.buffer ++ data = line ++ lineFeed :: more)
    (first : lineFeed ∉ line) (short : line.length ≤ r.limit) :
    Pushed r data (.request (.ofLine line))
  | tooLarge (long : r.limit < (r.buffer ++ data).length)
    (unfed : lineFeed ∉ (r.buffer ++ data).take (r.limit + 1)) :
    Pushed r data (.request (.refused Request.tooLarge))
  | more {next : LineReader} (limit : next.limit = r.limit)
    (buffer : next.buffer = r.buffer ++ data) (idle : next.Idle) : Pushed r data (.more next)

theorem window_eq (idle : r.Idle) (data : Bytes) :
    ((r.buffer ++ data).take (min (r.limit + 1) (r.buffer ++ data).length)).drop r.searched =
      data.take (r.limit + 1 - r.buffer.length) := by
  rw [idle.searched, ← List.take_eq_take_min, List.take_append,
    List.take_of_length_le (Nat.le_succ_of_le idle.short), List.drop_left]

theorem take_append_of_idle (idle : r.Idle) (data : Bytes) :
    (r.buffer ++ data).take (r.limit + 1) =
      r.buffer ++ data.take (r.limit + 1 - r.buffer.length) := by
  rw [List.take_append, List.take_of_length_le (Nat.le_succ_of_le idle.short)]

theorem findIdx?_feed_eq_none {line : Bytes} (unfed : lineFeed ∉ line) :
    line.findIdx? (· == lineFeed) = none := by
  rw [List.findIdx?_eq_none_iff]
  rintro byte inside
  exact beq_eq_false_iff_ne.mpr fun same => unfed (same ▸ inside)

theorem findIdx?_feed {line more : Bytes} (first : lineFeed ∉ line) :
    (line ++ lineFeed :: more).findIdx? (· == lineFeed) = some line.length := by
  rw [List.findIdx?_append, findIdx?_feed_eq_none first, List.findIdx?_cons, beq_self_eq_true]
  simp

theorem pushed_push (idle : r.Idle) (data : Bytes) : Pushed r data (r.push data) := by
  unfold push search
  dsimp only
  rw [window_eq idle]
  by_cases fed : lineFeed ∈ data.take (r.limit + 1 - r.buffer.length)
  · obtain ⟨line, more, window, first⟩ := List.eq_append_cons_of_mem fed
    have cut : r.buffer ++ data =
        (r.buffer ++ line) ++ lineFeed ::
          (more ++ data.drop (r.limit + 1 - r.buffer.length)) := by
      rw [List.append_assoc, ← List.cons_append, ← List.append_assoc line, ← window,
        List.take_append_drop]
    have short : (r.buffer ++ line).length ≤ r.limit := by
      have := List.length_take_le (r.limit + 1 - r.buffer.length) data
      rw [window, List.length_append, List.length_cons] at this
      rw [List.length_append]
      omega
    rw [window, findIdx?_feed first]
    dsimp only
    rw [idle.searched, ← List.length_append, cut, List.take_left]
    refine .line cut ?_ short
    rw [List.mem_append]
    exact fun either => either.elim idle.unfed first
  · have unfed : lineFeed ∉ (r.buffer ++ data).take (r.limit + 1) := by
      rw [take_append_of_idle idle, List.mem_append]
      exact fun either => either.elim idle.unfed fed
    rw [findIdx?_feed_eq_none fed]
    dsimp only
    split
    · next long => exact .tooLarge long unfed
    · next short =>
      have fits := Nat.le_of_not_lt short
      rw [List.take_of_length_le (Nat.le_succ_of_le fits)] at unfed
      exact .more rfl rfl ⟨unfed, fits, Nat.min_eq_right (Nat.le_succ_of_le fits)⟩

theorem finish_of_idle (idle : r.Idle) : r.finish = Request.ofRest r.buffer .closed := by
  have nothing : r.search = r.push [] := by rw [push, List.append_nil]
  have pushed := pushed_push idle []
  unfold finish
  rw [nothing]
  generalize r.push [] = progress at pushed
  cases pushed with
  | line cut first short =>
    rw [List.append_nil] at cut
    exact absurd (cut ▸ List.mem_append_right _ List.mem_cons_self) idle.unfed
  | tooLarge long unfed =>
    rw [List.append_nil] at long
    exact absurd idle.short (Nat.not_le_of_lt long)
  | more limit buffer idle =>
    rw [List.append_nil] at buffer
    dsimp only
    rw [buffer, Request.ofRest]

/-- An idle reader goes on to the request that its buffer and the bytes still to come make. -/
theorem run_of_idle (idle : r.Idle) (staysOpen : Bool) (ms : Nat) (reads : List Read) :
    r.run staysOpen ms reads =
      .ofArrival r.limit ((Arrival.ofReads staysOpen ms reads).cons r.buffer) := by
  -- the reader stays idle from piece to piece until it has the request
  induction reads generalizing r ms with
  | nil =>
    rw [run, Arrival.ofReads, Arrival.cons, List.append_nil,
      Request.ofArrival_rest idle.unfed idle.short]
    cases staysOpen with
    | true => rfl
    | false => exact finish_of_idle idle
  | cons read reads ih =>
    cases read with
    | bytes data =>
      have pushed := pushed_push idle data
      rw [run, Arrival.ofReads]
      generalize r.push data = progress at pushed
      cases pushed with
      | @line line more cut first short =>
        let rest := (Arrival.ofReads staysOpen ms reads).bytes
        have whole : r.buffer ++ (data ++ rest) = line ++ lineFeed :: (more ++ rest) := by
          rw [← List.append_assoc, cut, List.append_assoc, List.cons_append]
        exact (Request.ofArrival_line whole first short).symm
      | tooLarge long unfed =>
        refine (Request.ofArrival_tooLarge ?_ ?_).symm
        · simp only [Arrival.cons]
          rw [← List.append_assoc, List.length_append]
          exact Nat.lt_of_lt_of_le long (Nat.le_add_right _ _)
        · simp only [Arrival.cons]
          rwa [← List.append_assoc, List.take_append_of_le_length long]
      | more limit buffer idle =>
        dsimp only
        rw [ih idle, limit, buffer]
        simp only [Arrival.cons, List.append_assoc]
    | wait pause =>
      rw [run, Arrival.ofReads]
      split
      · rw [Arrival.cons, List.append_nil, Request.ofArrival_rest idle.unfed idle.short]
        rfl
      · exact ih idle _
    | fail invalid cause =>
      rw [run, Arrival.ofReads, Arrival.cons, List.append_nil,
        Request.ofArrival_rest idle.unfed idle.short]
      cases invalid <;> rfl

end LineReader

theorem Request.read_eq (limit ms : Nat) (i : Incoming) :
    read limit ms i = .ofArrival limit (i.within ms) := by
  rw [read, LineReader.run_of_idle (LineReader.idle_start limit)]
  rfl

end EventRelay
