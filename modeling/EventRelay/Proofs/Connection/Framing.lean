import EventRelay.Connection.Request
import EventRelay.Proofs.Text.Encoding

namespace EventRelay

def Read.data : Read → Bytes
  | .bytes data => data
  | .wait _ | .fail .. => []

def Read.pause : Read → Nat
  | .wait ms => ms
  | .bytes _ | .fail .. => 0

def Read.isFailure : Read → Bool
  | .fail .. => true
  | .bytes _ | .wait _ => false

def Read.pauses (reads : List Read) : Nat := reads.foldr (fun r ms => r.pause + ms) 0

/-- The pieces make up these bytes and come within `ms`, on a connection that does not break. -/
structure Arrives (reads : List Read) (ms : Nat) (bytes : Bytes) : Prop where
  whole : reads.flatMap Read.data = bytes
  intact : ∀ r ∈ reads, r.isFailure = false
  inTime : Read.pauses reads ≤ ms

namespace Arrives

variable {reads : List Read} {ms : Nat} {bytes : Bytes}

theorem nil_iff : Arrives [] ms bytes ↔ bytes = [] := by
  constructor
  · rintro ⟨rfl, -, -⟩
    rfl
  · rintro rfl
    exact ⟨rfl, fun _ h => (List.not_mem_nil h).elim, Nat.zero_le ms⟩

theorem bytes_iff {data : Bytes} :
    Arrives (.bytes data :: reads) ms bytes ↔ ∃ rest, bytes = data ++ rest ∧ Arrives reads ms rest := by
  constructor
  · rintro ⟨rfl, intact, inTime⟩
    simp only [Read.pauses, List.foldr_cons, Read.pause, Nat.zero_add] at inTime
    exact ⟨_, rfl, rfl, fun r hr => intact r (List.mem_cons_of_mem _ hr), inTime⟩
  · rintro ⟨_, rfl, rfl, intact, inTime⟩
    refine ⟨rfl, ?_, ?_⟩
    · simpa [Read.isFailure] using intact
    · simpa [Read.pauses, Read.pause] using inTime

theorem wait_iff {pause : Nat} :
    Arrives (.wait pause :: reads) ms bytes ↔ pause ≤ ms ∧ Arrives reads (ms - pause) bytes := by
  constructor
  · rintro ⟨rfl, intact, inTime⟩
    simp only [Read.pauses, List.foldr_cons, Read.pause] at inTime
    exact ⟨by omega, rfl, fun r hr => intact r (List.mem_cons_of_mem _ hr),
      Nat.le_sub_of_add_le' inTime⟩
  · rintro ⟨fits, rfl, intact, inTime⟩
    refine ⟨rfl, ?_, ?_⟩
    · simpa [Read.isFailure] using intact
    · simp only [Read.pauses, List.foldr_cons, Read.pause] at inTime ⊢
      omega

theorem not_fail {invalid : Bool} {cause : String} :
    ¬ Arrives (.fail invalid cause :: reads) ms bytes := by
  rintro ⟨-, intact, -⟩
  have := intact _ List.mem_cons_self
  cases this

theorem bytes_ofReads {early : List Read} (h : Arrives early ms bytes) (staysOpen : Bool)
    (late : List Read) :
    ∃ more, (Arrival.ofReads staysOpen ms (early ++ late)).bytes = bytes ++ more := by
  induction early generalizing ms bytes with
  | nil =>
    rw [nil_iff.mp h]
    exact ⟨_, rfl⟩
  | cons r early ih =>
    cases r with
    | bytes data =>
      obtain ⟨rest, rfl, later⟩ := bytes_iff.mp h
      obtain ⟨more, hm⟩ := ih later
      refine ⟨more, ?_⟩
      rw [List.cons_append, Arrival.ofReads, Arrival.cons, hm, List.append_assoc]
    | wait pause =>
      obtain ⟨fits, later⟩ := wait_iff.mp h
      obtain ⟨more, hm⟩ := ih later
      refine ⟨more, ?_⟩
      rw [List.cons_append, Arrival.ofReads, if_neg (Nat.not_lt_of_le fits), hm]
    | fail invalid cause => exact (not_fail h).elim

theorem exists_of_ofReads (staysOpen : Bool) (ms : Nat) (reads : List Read) :
    ∃ early late, reads = early ++ late ∧
      Arrives early ms (Arrival.ofReads staysOpen ms reads).bytes := by
  induction reads generalizing ms with
  | nil => exact ⟨[], [], rfl, nil_iff.mpr rfl⟩
  | cons r reads ih =>
    cases r with
    | bytes data =>
      obtain ⟨early, late, split, h⟩ := ih ms
      exact ⟨.bytes data :: early, late, congrArg _ split, bytes_iff.mpr ⟨_, rfl, h⟩⟩
    | wait pause =>
      rw [Arrival.ofReads]
      split
      · exact ⟨[], _, rfl, nil_iff.mpr rfl⟩
      · next fits =>
        obtain ⟨early, late, split, h⟩ := ih (ms - pause)
        exact ⟨.wait pause :: early, late, congrArg _ split,
          wait_iff.mpr ⟨Nat.le_of_not_lt fits, h⟩⟩
    | fail invalid cause => exact ⟨[], _, rfl, nil_iff.mpr rfl⟩

theorem ofReads_eq_closed_iff {staysOpen : Bool} :
    Arrival.ofReads staysOpen ms reads = ⟨bytes, .closed⟩ ↔
      staysOpen = false ∧ Arrives reads ms bytes := by
  induction reads generalizing ms bytes with
  | nil =>
    rw [nil_iff, Arrival.ofReads]
    cases staysOpen <;> simp [eq_comm]
  | cons r reads ih =>
    cases r with
    | bytes data =>
      rw [bytes_iff, Arrival.ofReads, Arrival.cons]
      constructor
      · intro same
        injection same with whole ending
        obtain ⟨closed, h⟩ := ih.mp (show Arrival.ofReads staysOpen ms reads = ⟨_, .closed⟩ from
          congrArg (Arrival.mk _) ending)
        exact ⟨closed, _, whole.symm, h⟩
      · rintro ⟨closed, rest, rfl, h⟩
        rw [ih.mpr ⟨closed, h⟩]
    | wait pause =>
      rw [wait_iff, Arrival.ofReads]
      split
      · next tooLong =>
        constructor
        · intro same
          cases same
        · rintro ⟨-, fits, -⟩
          exact absurd tooLong (Nat.not_lt_of_le fits)
      · next fits =>
        rw [ih, and_iff_right (Nat.le_of_not_lt fits)]
    | fail invalid cause =>
      constructor
      · intro same
        cases same
      · rintro ⟨-, h⟩
        exact (not_fail h).elim

end Arrives

namespace Incoming

variable {i : Incoming} {ms limit : Nat} {line rest : Bytes}

/-- A line that is not too long comes in time, with its line feed and whatever is behind it. -/
def Completes (i : Incoming) (ms limit : Nat) (line : Bytes) : Prop :=
  Request.lineFeed ∉ line ∧ line.length ≤ limit ∧
    ∃ early late more, i.reads = early ++ late ∧
      Arrives early ms (line ++ Request.lineFeed :: more)

/-- The connection is closed in time, and all that came is not too long and without a line feed. -/
def ClosesBehind (i : Incoming) (ms limit : Nat) (rest : Bytes) : Prop :=
  Request.lineFeed ∉ rest ∧ rest.length ≤ limit ∧ i.staysOpen = false ∧ Arrives i.reads ms rest

theorem completes_iff : i.Completes ms limit line ↔
    Request.lineFeed ∉ line ∧ line.length ≤ limit ∧
      ∃ more, (i.within ms).bytes = line ++ Request.lineFeed :: more := by
  unfold Completes
  refine and_congr_right fun _ => and_congr_right fun _ => ?_
  constructor
  · rintro ⟨early, late, more, split, arrives⟩
    obtain ⟨others, bytes⟩ := arrives.bytes_ofReads i.staysOpen late
    refine ⟨more ++ others, ?_⟩
    rw [within, split, bytes, List.append_assoc, List.cons_append]
  · rintro ⟨more, bytes⟩
    obtain ⟨early, late, split, arrives⟩ := Arrives.exists_of_ofReads i.staysOpen ms i.reads
    rw [within] at bytes
    rw [bytes] at arrives
    exact ⟨early, late, more, split, arrives⟩

theorem closesBehind_iff : i.ClosesBehind ms limit rest ↔
    Request.lineFeed ∉ rest ∧ rest.length ≤ limit ∧ i.within ms = ⟨rest, .closed⟩ := by
  rw [ClosesBehind, within, Arrives.ofReads_eq_closed_iff]

end Incoming

namespace Request

theorem ofArrival_line {limit : Nat} {a : Arrival} {line more : Bytes}
    (bytes : a.bytes = line ++ lineFeed :: more) (feed : lineFeed ∉ line)
    (short : line.length ≤ limit) : ofArrival limit a = ofLine line := by
  have start : a.bytes.take (limit + 1) = line ++ lineFeed :: more.take (limit - line.length) := by
    rw [bytes, List.take_append, List.take_of_length_le (by omega)]
    rw [show limit + 1 - line.length = (limit - line.length) + 1 by omega, List.take_succ_cons]
  unfold ofArrival
  simp only [start, Bytes.takeWhile_ne feed]
  rw [if_pos (by simp)]

inductive Framed (limit : Nat) (a : Arrival) : Request → Prop
  | line {line more : Bytes} (bytes : a.bytes = line ++ lineFeed :: more) (first : lineFeed ∉ line)
    (short : line.length ≤ limit) : Framed limit a (ofLine line)
  | tooLarge (long : limit < a.bytes.length) (none : lineFeed ∉ a.bytes.take (limit + 1)) :
    Framed limit a (.refused tooLarge)
  | rest (none : lineFeed ∉ a.bytes) (short : a.bytes.length ≤ limit) :
    Framed limit a (ofRest a.bytes a.ending)

theorem ofArrival_tooLarge {limit : Nat} {a : Arrival} (long : limit < a.bytes.length)
    (none : lineFeed ∉ a.bytes.take (limit + 1)) : ofArrival limit a = .refused tooLarge := by
  have length : (a.bytes.take (limit + 1)).length = limit + 1 := List.length_take_of_le long
  unfold ofArrival
  simp only [Bytes.takeWhile_ne_self none, Nat.lt_irrefl, if_false, length, Nat.lt_succ_self,
    if_true]

theorem ofArrival_rest {limit : Nat} {a : Arrival} (none : lineFeed ∉ a.bytes)
    (short : a.bytes.length ≤ limit) : ofArrival limit a = ofRest a.bytes a.ending := by
  have start : a.bytes.take (limit + 1) = a.bytes :=
    List.take_of_length_le (Nat.le_succ_of_le short)
  unfold ofArrival
  simp only [start, Bytes.takeWhile_ne_self none, Nat.lt_irrefl, if_false,
    if_neg (Nat.not_lt_of_le short)]

theorem framed_ofArrival (limit : Nat) (a : Arrival) : Framed limit a (ofArrival limit a) := by
  -- a line of full length has its line feed one byte behind the limit
  by_cases fed : lineFeed ∈ a.bytes.take (limit + 1)
  · obtain ⟨line, more, start, first⟩ := List.eq_append_cons_of_mem fed
    have bytes : a.bytes = line ++ lineFeed :: (more ++ a.bytes.drop (limit + 1)) := by
      rw [← List.cons_append, ← List.append_assoc, ← start, List.take_append_drop]
    have short : line.length ≤ limit := by
      have := List.length_take_le (limit + 1) a.bytes
      rw [start, List.length_append, List.length_cons] at this
      omega
    rw [ofArrival_line bytes first short]
    exact .line bytes first short
  · by_cases long : limit < a.bytes.length
    · rw [ofArrival_tooLarge long fed]
      exact .tooLarge long fed
    · have short := Nat.le_of_not_lt long
      have none : lineFeed ∉ a.bytes := by
        rwa [List.take_of_length_le (Nat.le_succ_of_le short)] at fed
      rw [ofArrival_rest none short]
      exact .rest none short

theorem ofLine_text {line : Bytes} {text : String}
    (written : (withoutReturn line).toString? = some text)
    (shown : Text.isBlankText text = false) : ofLine line = .line text := by
  unfold ofLine
  rw [written]
  simp only [shown]
  rfl

theorem ofLine_ofString {text : String} (ret : '\r' ∉ text.toList)
    (shows : Text.isBlankText text = false) : ofLine (.ofString text) = .line text := by
  have whole : withoutReturn (.ofString text) = .ofString text := by
    unfold withoutReturn
    rw [if_neg]
    intro last
    apply ret
    apply (Bytes.ofAscii_mem_ofString (by decide)).mp
    exact List.mem_of_getLast? last
  exact ofLine_text (by rw [whole, Bytes.toString?_ofString]) shows

theorem ofArrival_text {limit : Nat} {a : Arrival} {text : String} {more : Bytes}
    (bytes : a.bytes = Bytes.ofString (text ++ "\n") ++ more) (feed : '\n' ∉ text.toList)
    (ret : '\r' ∉ text.toList) (shows : Text.isBlankText text = false)
    (short : (Bytes.ofString text).length ≤ limit) : ofArrival limit a = .line text := by
  rw [← ofLine_ofString ret shows]
  have line : a.bytes = Bytes.ofString text ++ lineFeed :: more := by
    rw [bytes, Bytes.ofString_feed, List.append_assoc]
    rfl
  refine ofArrival_line line ?_ short
  intro h
  exact feed ((Bytes.ofAscii_mem_ofString (by decide)).mp h)

section Lines

variable {line : Bytes} {text : String}

def IsBlank (line : Bytes) : Prop :=
  ∃ text, (withoutReturn line).toString? = some text ∧ Text.isBlankText text = true

theorem ofLine_blank (blank : IsBlank line) : ofLine line = .none .closedEarly := by
  obtain ⟨text, written, blank⟩ := blank
  unfold ofLine
  rw [written]
  simp only [blank, if_true]

inductive Taken (line : Bytes) : Request → Prop
  | refused {f : Failure} (protocol : f.category = .protocol) : Taken line (.refused f)
  | blank (blank : IsBlank line) : Taken line (.none .closedEarly)
  | text {text : String} (written : (withoutReturn line).toString? = some text)
    (shown : Text.isBlankText text = false) : Taken line (.line text)

theorem taken_ofLine (line : Bytes) : Taken line (ofLine line) := by
  unfold ofLine
  split
  · exact .refused rfl
  · next text written =>
    split
    · next blank => exact .blank ⟨text, written, blank⟩
    · next shown => exact .text written (Bool.eq_false_iff.mpr shown)

theorem ofLine_eq_line_iff : ofLine line = .line text ↔
    (withoutReturn line).toString? = some text ∧ Text.isBlankText text = false := by
  constructor
  · intro same
    have taken := taken_ofLine line
    rw [same] at taken
    cases taken with
    | text written shown => exact ⟨written, shown⟩
  · rintro ⟨written, shown⟩
    exact ofLine_text written shown

theorem ofLine_eq_none {why : Abandonment} (none : ofLine line = .none why) :
    IsBlank line ∧ why = .closedEarly := by
  have taken := taken_ofLine line
  rw [none] at taken
  cases taken with
  | blank blank => exact ⟨blank, rfl⟩

theorem category_of_ofLine {f : Failure} (refused : ofLine line = .refused f) :
    f.category = .protocol := by
  have taken := taken_ofLine line
  rw [refused] at taken
  cases taken with
  | refused protocol => exact protocol

theorem isBlank_nil : IsBlank [] :=
  ⟨"", by rw [withoutReturn, if_neg (by decide), ← Bytes.ofString_empty, Bytes.toString?_ofString],
    rfl⟩

theorem isBlank_return : IsBlank [13] :=
  ⟨"", by rw [withoutReturn, if_pos (by decide), List.dropLast_singleton, ← Bytes.ofString_empty,
    Bytes.toString?_ofString], rfl⟩

theorem ofRest_closed (rest : Bytes) : ofRest rest .closed = ofLine rest := by
  rw [ofRest]
  split
  · next empty =>
    rcases empty with rfl | rfl
    · rw [ofLine_blank isBlank_nil]
    · rw [ofLine_blank isBlank_return]
  · rfl

theorem category_of_refused {limit : Nat} {a : Arrival} {f : Failure}
    (refused : ofArrival limit a = .refused f) : f.category = .protocol := by
  have framed := framed_ofArrival limit a
  generalize ofArrival limit a = r at framed refused
  cases framed with
  | line => exact category_of_ofLine refused
  | tooLarge =>
    cases refused
    rfl
  | rest =>
    generalize a.ending = ending at refused
    cases ending with
    | late => cases refused
    | closed =>
      rw [ofRest_closed] at refused
      exact category_of_ofLine refused
    | failed invalid cause =>
      cases invalid <;> cases refused
      rfl

end Lines

end Request

/-- Why a stream is given up before any line of it is complete. -/
inductive Incoming.Unfinished (i : Incoming) (ms limit : Nat) : Abandonment → Prop
  | late (ending : (i.within ms).ending = .late) : Unfinished i ms limit .readTimeout
  | closed {rest : Bytes} (closes : i.ClosesBehind ms limit rest) (blank : Request.IsBlank rest) :
    Unfinished i ms limit .closedEarly
  | failed {cause : String} (ending : (i.within ms).ending = .failed false cause) :
    Unfinished i ms limit .readFailed

/-- What of a stream may be a request: a complete line, or all of it once it is closed. -/
inductive Incoming.Offers (i : Incoming) (ms limit : Nat) : Bytes → Prop
  | line {line : Bytes} (complete : i.Completes ms limit line) : Offers i ms limit line
  | rest {rest : Bytes} (closes : i.ClosesBehind ms limit rest) : Offers i ms limit rest

end EventRelay
