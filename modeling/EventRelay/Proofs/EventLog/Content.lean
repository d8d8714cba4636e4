import EventRelay.Proofs.EventLog.Entry
import EventRelay.Proofs.Text.Encoding
import Mathlib.Data.List.Induction

/-!
What a log holds, as a list of entries. `retain` says which entries are left when one more is added.
Main statements: the room that is made for an entry leaves exactly these, and in the long run a log
keeps the latest of all entries that were added.
-/

namespace EventRelay.EventLog

def record (entries : List LogEntry) : String := String.join (entries.map LogEntry.render)

@[simp] theorem record_nil : record [] = "" := rfl

@[simp] theorem record_append (old new : List LogEntry) :
    record (old ++ new) = record old ++ record new := by
  simp [record]

@[simp] theorem record_singleton (e : LogEntry) : record [e] = e.render := by simp [record]

/-- The entries of a log after one more is added to those that it holds. -/
def retain (log : EventLog) (held : List LogEntry) (e : LogEntry) : List LogEntry :=
  match log.rotation with
  | .size =>
    if log.maxBytes ≤ (Bytes.ofString (record held)).length then [e] else held ++ [e]
  | .lines =>
    if held.length < log.maxLines then held ++ [e]
    else held.drop (held.length - (log.maxLines - 1)) ++ [e]

def roomFor (log : EventLog) (content line : String) : Room :=
  match log.rotation with
  | .size => roomWithinBytes log.maxBytes (.ofString content) (.ofString line)
  | .lines => roomWithinLines log.maxLines content line

theorem lines_record (held : List LogEntry) :
    (Text.lines (record held)).map (· ++ "\n") = held.map LogEntry.render := by
  apply Text.lines_join
  intro s hs
  obtain ⟨e, -, rfl⟩ := List.mem_map.mp hs
  exact e.isLine_render

theorem lines_record_eq (held : List LogEntry) :
    Text.lines (record held) = held.map LogEntry.body := by
  have feed (s t : String) (same : s ++ "\n" = t ++ "\n") : s = t :=
    (String.append_left_inj "\n").mp same
  rw [← List.map_inj_right feed, lines_record, List.map_map]
  rfl

theorem length_lines_record (held : List LogEntry) :
    (Text.lines (record held)).length = held.length := by
  have := congrArg List.length (lines_record held)
  simpa using this

theorem content_roomFor (log : EventLog) (held : List LogEntry) (e : LogEntry) :
    (log.roomFor (record held) e.render).content = .ofString (record (log.retain held e)) := by
  unfold roomFor retain
  cases log.rotation with
  | size =>
    simp only [roomWithinBytes, Room.content]
    split
    · simp
    · simp
  | lines =>
    simp only [roomWithinLines, length_lines_record]
    split
    · simp [Room.content]
    · rw [List.map_drop, lines_record, ← List.map_drop]
      simp [Room.content, record]

/-- What a log that was empty holds after entries have been added. -/
def kept (log : EventLog) (entries : List LogEntry) : List LogEntry :=
  entries.foldl log.retain []

@[simp] theorem kept_nil (log : EventLog) : log.kept [] = [] := rfl

@[simp] theorem kept_concat (log : EventLog) (entries : List LogEntry) (e : LogEntry) :
    log.kept (entries ++ [e]) = log.retain (log.kept entries) e := by
  simp [kept]

theorem retain_eq (log : EventLog) (held : List LogEntry) (e : LogEntry) :
    ∃ lost stay, held = lost ++ stay ∧ log.retain held e = stay ++ [e] := by
  unfold retain
  cases log.rotation with
  | size =>
    simp only
    split
    · exact ⟨held, [], by simp, rfl⟩
    · exact ⟨[], held, rfl, rfl⟩
  | lines =>
    simp only
    split
    · exact ⟨[], held, rfl, rfl⟩
    · exact ⟨held.take _, held.drop _, (List.take_append_drop _ _).symm, rfl⟩

theorem kept_suffix (log : EventLog) (entries : List LogEntry) : log.kept entries <:+ entries := by
  induction entries using List.reverseRecOn with
  | nil => exact List.suffix_refl []
  | append_singleton entries e ih =>
    obtain ⟨before, same⟩ := ih
    obtain ⟨lost, stay, held, rest⟩ := log.retain_eq (log.kept entries) e
    rw [kept_concat, rest]
    refine ⟨before ++ lost, ?_⟩
    rw [← same, held]
    simp

theorem kept_ne_nil (log : EventLog) {entries : List LogEntry} (h : entries ≠ []) :
    log.kept entries ≠ [] := by
  rw [← List.dropLast_concat_getLast h, kept_concat]
  obtain ⟨_, stay, -, rest⟩ := log.retain_eq (log.kept entries.dropLast) (entries.getLast h)
  rw [rest]
  simp

theorem kept_lines (log : EventLog) (lines : log.rotation = .lines) (room : 0 < log.maxLines)
    (entries : List LogEntry) :
    log.kept entries = entries.drop (entries.length - log.maxLines) := by
  induction entries using List.reverseRecOn with
  | nil => simp
  | append_singleton entries e ih =>
    rw [kept_concat, ih, retain, lines]
    simp only [List.length_drop, List.length_append, List.length_singleton]
    split
    · next few =>
      rw [List.drop_append_of_le_length (by omega)]
      congr 2
      omega
    · next many =>
      rw [List.drop_append_of_le_length (by omega), List.drop_drop]
      congr 2
      omega

end EventRelay.EventLog
