import EventRelay.Proofs.EventLog.Verdict
import EventRelay.Proofs.Text.LineEnds
import Mathlib.Data.List.DropRight

namespace EventRelay

theorem LogEntry.body_ne_empty (e : LogEntry) : e.body ≠ "" := by
  intro empty
  have := congrArg String.toList empty
  simp [body, String.toList_append] at this

theorem LogEntry.getLast?_body (e : LogEntry) : e.body.toList.getLast? ≠ some '\r' :=
  fun last => e.not_mem_body (.inl rfl) (List.mem_of_getLast? last)

theorem LogEntry.lines_render (e : LogEntry) : Text.lines e.render = [e.body] := by
  rw [render_eq_body, Text.lines_feed (e.not_mem_body (.inr rfl)),
    Text.ended_eq_self_iff.mpr e.getLast?_body]

namespace EventLog

variable {log : EventLog} {fs fs' : FileSystem} {text : String} {e : LogEntry}

theorem append_of_opens {l : Location} {old : Option Bytes}
    (opens : fs.openForWriting log.path = .ok (l, old)) (readable : log.Readable (old.getD []))
    (e : LogEntry) : ∃ r fs', log.roomIn (log.content fs) e.render = .ok r ∧
      log.append e fs = .ok fs' ∧ log.content fs' = r.content := by
  obtain ⟨kept, added, start, room, -, -⟩ := start_of_opens opens readable e
  have found := FileSystem.find_put_of_openForWriting opens kept
  have finish := Pending.finish_of_at? (p := ⟨l, added⟩) (FileSystem.at?_of_find found)
  refine ⟨⟨kept, added⟩, (fs.put l (.file kept)).put l (.file (kept ++ added)), ?_, ?_, ?_⟩
  · rw [content_of_openForWriting opens]
    exact room
  · rw [append, start]
    exact congrArg Except.ok finish
  · rw [content, FileSystem.read_of_find (FileSystem.find_put found (kept ++ added))]
    rfl

theorem content_append (appended : log.append e fs = .ok fs') :
    ∃ r, log.roomIn (log.content fs) e.render = .ok r ∧ log.content fs' = r.content := by
  cases log.outlook fs with
  | fails f start =>
    rw [append, start] at appended
    cases appended
  | opens l old opens readable =>
    obtain ⟨r, _, room, appended', after⟩ := append_of_opens opens readable e
    rw [appended] at appended'
    cases appended'
    exact ⟨r, room, after⟩

def survivors (log : EventLog) (text : String) : List String :=
  match log.rotation with
  | .size => []
  | .lines => (Text.lines text).rtake (log.maxLines - 1)

theorem survivors_sublist (log : EventLog) (text : String) :
    (log.survivors text).Sublist (Text.lines text) := by
  unfold survivors
  cases log.rotation with
  | size => exact List.nil_sublist _
  | lines => exact List.drop_sublist _ _

theorem hasRoom_ofString : log.HasRoom (.ofString text) ↔ match log.rotation with
    | .size => (Bytes.ofString text).length < log.maxBytes
    | .lines => (Text.lines text).length < log.maxLines := by
  unfold HasRoom
  cases log.rotation with
  | size => rfl
  | lines => simp

theorem roomIn_of_not_hasRoom (full : ¬ log.HasRoom (.ofString text)) (line : String) :
    log.roomIn (.ofString text) line =
      .ok ⟨[], .ofString (String.join ((log.survivors text).map (· ++ "\n")) ++ line)⟩ := by
  rw [hasRoom_ofString] at full
  unfold roomIn survivors
  cases rotation : log.rotation with
  | size =>
    rw [rotation] at full
    rw [roomWithinBytes, if_pos (Nat.le_of_not_lt full)]
    simp
  | lines =>
    rw [rotation] at full
    simp only [Bytes.toString?_ofString]
    rw [roomWithinLines, if_neg full]
    rfl

theorem content_append_of_hasRoom (appended : log.append e fs = .ok fs')
    (written : log.content fs = .ofString text) (room : log.HasRoom (.ofString text)) :
    log.content fs' = .ofString (text ++ e.render) := by
  obtain ⟨r, made, after⟩ := content_append appended
  rw [written, roomIn_of_hasRoom (log.readable_ofString text) room] at made
  cases made
  rw [after, Bytes.ofString_append]
  rfl

theorem content_append_of_not_hasRoom (appended : log.append e fs = .ok fs')
    (written : log.content fs = .ofString text) (full : ¬ log.HasRoom (.ofString text)) :
    log.content fs' =
      .ofString (String.join ((log.survivors text).map (· ++ "\n")) ++ e.render) := by
  obtain ⟨r, made, after⟩ := content_append appended
  rw [written, roomIn_of_not_hasRoom full] at made
  cases made
  exact after

/-- Between the two texts a log was given the entry as its last line, and lost nothing but lines. -/
structure AddsLine (log : EventLog) (before after : String) (e : LogEntry) : Prop where
  ends : ∃ rest, after = rest ++ e.render
  last : (Text.lines after).getLast? = some e.body
  others : (Text.lines after).dropLast.Sublist (Text.lines before)
  latest : log.rotation = .lines →
    Text.lines after = (Text.lines before ++ [e.body]).rtake log.maxLines

/-- A text that can be gone on with line by line: its last line is ended, and those lines that are
to be written out again are read the same then. -/
structure Tidy (log : EventLog) (text : String) : Prop where
  finished : log.HasRoom (.ofString text) → Text.Finished text
  plain : ¬ log.HasRoom (.ofString text) →
    ∀ line ∈ log.survivors text, line.toList.getLast? ≠ some '\r'

theorem addsLine_of_hasRoom (room : log.HasRoom (.ofString text)) :
    log.AddsLine text (text ++ e.render) e ↔ Text.Finished text := by
  constructor
  · intro adds
    by_contra unfinished
    exact Text.getLast?_lines_of_not_finished unfinished (e.not_mem_body (.inr rfl)) e.getLast?_body
      e.body_ne_empty adds.last
  · intro finished
    have lines : Text.lines (text ++ e.render) = Text.lines text ++ [e.body] := by
      rw [Text.lines_append finished, e.lines_render]
    refine ⟨⟨text, rfl⟩, ?_, ?_, ?_⟩
    · rw [lines, List.getLast?_concat]
    · rw [lines, List.dropLast_concat]
    · intro rotation
      rw [hasRoom_ofString, rotation] at room
      have few : (Text.lines text ++ [e.body]).length ≤ log.maxLines := by
        rw [List.length_append]
        exact room
      rw [lines, List.rtake, Nat.sub_eq_zero_of_le few, List.drop_zero]

theorem addsLine_of_not_hasRoom (least : 0 < log.maxLines) :
    log.AddsLine text (String.join ((log.survivors text).map (· ++ "\n")) ++ e.render) e ↔
      ∀ line ∈ log.survivors text, line.toList.getLast? ≠ some '\r' := by
  have feeds : ∀ line ∈ log.survivors text, '\n' ∉ line.toList :=
    fun line mem => Text.feed_not_mem_lines ((log.survivors_sublist text).subset mem)
  have lines : Text.lines (String.join ((log.survivors text).map (· ++ "\n")) ++ e.render) =
      (log.survivors text).map Text.ended ++ [e.body] := by
    rw [Text.lines_append (Text.finished_join _), Text.lines_join_ended feeds, e.lines_render]
  have same : (log.survivors text).map Text.ended = log.survivors text ↔
      ∀ line ∈ log.survivors text, line.toList.getLast? ≠ some '\r' := by
    calc
      _ ↔ (log.survivors text).map Text.ended = (log.survivors text).map id := by rw [List.map_id]
      _ ↔ ∀ line ∈ log.survivors text, Text.ended line = line := List.map_inj_left
      _ ↔ _ := forall₂_congr fun _ _ => Text.ended_eq_self_iff
  have latest (rotation : log.rotation = .lines) :
      (Text.lines text ++ [e.body]).rtake log.maxLines = log.survivors text ++ [e.body] := by
    rw [survivors, rotation, ← List.rtake_concat_succ, Nat.sub_add_cancel least]
  rw [← same]
  constructor
  · intro adds
    cases rotation : log.rotation with
    | size => simp [survivors, rotation]
    | lines =>
      have := adds.latest rotation
      rw [lines, latest rotation] at this
      exact List.append_cancel_right this
  · intro unchanged
    rw [unchanged] at lines
    refine ⟨⟨_, rfl⟩, ?_, ?_, ?_⟩
    · rw [lines, List.getLast?_concat]
    · rw [lines, List.dropLast_concat]
      exact log.survivors_sublist text
    · intro rotation
      rw [lines, latest rotation]

theorem append_text (least : 0 < log.maxLines) (appended : log.append e fs = .ok fs')
    (written : log.content fs = .ofString text) :
    ∃ text', log.content fs' = .ofString text' ∧ (log.AddsLine text text' e ↔ log.Tidy text) := by
  by_cases room : log.HasRoom (.ofString text)
  · refine ⟨_, content_append_of_hasRoom appended written room, ?_⟩
    rw [addsLine_of_hasRoom room]
    exact ⟨fun finished => ⟨fun _ => finished, fun full => absurd room full⟩,
      fun tidy => tidy.finished room⟩
  · refine ⟨_, content_append_of_not_hasRoom appended written room, ?_⟩
    rw [addsLine_of_not_hasRoom least]
    exact ⟨fun plain => ⟨fun free => absurd free room, fun _ => plain⟩, fun tidy => tidy.plain room⟩

/-- A text of ended lines, none of which is read differently when it is written out again. -/
structure Clean (text : String) : Prop where
  finished : Text.Finished text
  plain : ∀ line ∈ Text.lines text, line.toList.getLast? ≠ some '\r'

theorem Clean.tidy (clean : Clean text) (log : EventLog) : log.Tidy text :=
  ⟨fun _ => clean.finished,
    fun _ line mem => clean.plain line ((log.survivors_sublist text).subset mem)⟩

theorem AddsLine.lines_eq {text' : String} (adds : log.AddsLine text text' e) :
    Text.lines text' = (Text.lines text').dropLast ++ [e.body] := by
  have last : e.body ∈ (Text.lines text').getLast? := adds.last
  exact (List.dropLast_append_getLast? _ last).symm

theorem AddsLine.clean {text' : String} (adds : log.AddsLine text text' e) (clean : Clean text) :
    Clean text' := by
  refine ⟨?_, fun line mem => ?_⟩
  · obtain ⟨rest, rfl⟩ := adds.ends
    exact .inr ⟨rest ++ e.body, by rw [e.render_eq_body, String.append_assoc]⟩
  · rw [adds.lines_eq, List.mem_append, List.mem_singleton] at mem
    rcases mem with old | rfl
    · exact clean.plain line (adds.others.subset old)
    · exact e.getLast?_body

theorem rtake_append_rtake {α : Type} (a b : List α) (n : Nat) :
    (a.rtake n ++ b).rtake n = (a ++ b).rtake n := by
  have whole : (a ++ b).drop (a.length - n) = a.drop (a.length - n) ++ b :=
    List.drop_append_of_le_length (Nat.sub_le _ _)
  simp only [List.rtake]
  rw [← whole, List.drop_drop]
  congr 1
  simp only [List.length_append, List.length_drop]
  omega

theorem appendAll_cons (least : 0 < log.maxLines) {entries : List LogEntry}
    (ran : log.appendAll fs (e :: entries) = .ok fs') (written : log.content fs = .ofString text)
    (clean : Clean text) :
    ∃ next middle, log.appendAll next entries = .ok fs' ∧ log.content next = .ofString middle ∧
      log.AddsLine text middle e := by
  rw [appendAll, List.foldlM_cons] at ran
  cases appended : log.append e fs with
  | error f =>
    rw [appended] at ran
    cases ran
  | ok next =>
    rw [appended] at ran
    obtain ⟨middle, now, adds⟩ := append_text least appended written
    exact ⟨next, middle, ran, now, adds.mpr (clean.tidy log)⟩

theorem appendAll_keeps_latest (lines : log.rotation = .lines) (least : 0 < log.maxLines)
    (e : LogEntry) (entries : List LogEntry) (ran : log.appendAll fs (e :: entries) = .ok fs')
    (written : log.content fs = .ofString text) (clean : Clean text) :
    ∃ text', log.content fs' = .ofString text' ∧ Clean text' ∧
      Text.lines text' =
        (Text.lines text ++ (e :: entries).map LogEntry.body).rtake log.maxLines := by
  induction entries generalizing fs text e with
  | nil =>
    obtain ⟨_, text', rest, after, adds⟩ := appendAll_cons least ran written clean
    cases rest
    exact ⟨text', after, adds.clean clean, adds.latest lines⟩
  | cons e' entries ih =>
    obtain ⟨_, middle, rest, now, adds⟩ := appendAll_cons least ran written clean
    obtain ⟨text', after, clean', latest⟩ := ih e' rest now (adds.clean clean)
    refine ⟨text', after, clean', ?_⟩
    rw [latest, adds.latest lines, rtake_append_rtake, List.append_assoc]
    rfl

/--
The entry stands behind what was in the log as a line of its own, and what is left of the lines
before it is as it was, exactly if the log could be gone on with line by line. A log that was left
in order stays in order.
-/
theorem append_adds_line {c : LogConfig} (appended : (ofConfig c).append e fs = .ok fs')
    (written : (ofConfig c).content fs = .ofString text) :
    ∃ text', (ofConfig c).content fs' = .ofString text' ∧
      ((ofConfig c).AddsLine text text' e ↔ (ofConfig c).Tidy text) ∧
      (Clean text → Clean text') := by
  obtain ⟨text', after, adds⟩ := append_text (maxLines_pos c) appended written
  exact ⟨text', after, adds, fun clean => (adds.mpr (clean.tidy _)).clean clean⟩

theorem append_adds_line_of_full :
    let c : LogConfig := { path := ⟨"log"⟩, rotation := .lines, maxLines := 2 }
    let fs := FileSystem.empty.put (.child .root "log") (.file (.ofString "a\r\nb\n"))
    ∃ fs' text', (ofConfig c).append ⟨0, "c"⟩ fs = .ok fs' ∧
      (ofConfig c).content fs = .ofString "a\r\nb\n" ∧
      (ofConfig c).content fs' = .ofString text' ∧
      (ofConfig c).AddsLine "a\r\nb\n" text' ⟨0, "c"⟩ := by
  intro c fs
  have opens : fs.openForWriting (ofConfig c).path =
      .ok (.child .root "log", some (.ofString "a\r\nb\n")) :=
    FileSystem.openForWriting_of_find ((FileSystem.isName_of_plain "log" (by decide)).find rfl)
  have written : (ofConfig c).content fs = .ofString "a\r\nb\n" :=
    content_of_openForWriting opens
  obtain ⟨_, fs', -, appended, -⟩ :=
    append_of_opens opens (readable_ofString _ _) ⟨0, "c"⟩
  have clean : Clean "a\r\nb\n" := by
    refine ⟨.inr ⟨"a\r\nb", rfl⟩, ?_⟩
    have lines : Text.lines "a\r\nb\n" = ["a", "b"] := by decide +kernel
    rw [lines]
    decide
  obtain ⟨text', after, adds, -⟩ := append_adds_line appended written
  exact ⟨fs', text', appended, written, after, adds.mpr (clean.tidy _)⟩

/-- The line that was cut off is gone on with. -/
theorem unfinished_line_extended :
    let c : LogConfig := { path := ⟨"log"⟩, rotation := .lines, maxLines := 10 }
    let fs := FileSystem.empty.put (.child .root "log") (.file (.ofString "cut off"))
    let text' := "cut off[1970-01-01 00:00:00] a\n"
    ∃ fs', (ofConfig c).append ⟨0, "a"⟩ fs = .ok fs' ∧
      (ofConfig c).content fs = .ofString "cut off" ∧
      (ofConfig c).content fs' = .ofString text' ∧
      Text.lines text' = ["cut off[1970-01-01 00:00:00] a"] ∧
      ¬ (ofConfig c).AddsLine "cut off" text' ⟨0, "a"⟩ := by
  intro c fs text'
  have opens : fs.openForWriting (ofConfig c).path =
      .ok (.child .root "log", some (.ofString "cut off")) :=
    FileSystem.openForWriting_of_find ((FileSystem.isName_of_plain "log" (by decide)).find rfl)
  have written : (ofConfig c).content fs = .ofString "cut off" :=
    content_of_openForWriting opens
  obtain ⟨_, fs', -, appended, -⟩ :=
    append_of_opens opens (readable_ofString _ _) ⟨0, "a"⟩
  have few : (Text.lines "cut off").length < (ofConfig c).maxLines := by decide +kernel
  have entry : LogEntry.render ⟨0, "a"⟩ = "[1970-01-01 00:00:00] a\n" := by decide +kernel
  have after := content_append_of_hasRoom appended written (hasRoom_ofString.mpr few)
  rw [entry] at after
  have line : Text.lines text' = ["cut off[1970-01-01 00:00:00] a"] := by decide +kernel
  refine ⟨fs', appended, written, after, line, fun adds => ?_⟩
  have last := adds.last
  rw [line, show LogEntry.body ⟨0, "a"⟩ = "[1970-01-01 00:00:00] a" by decide +kernel] at last
  simp at last

end EventLog

end EventRelay
