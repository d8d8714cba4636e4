import EventRelay.EventLog.Calls
import EventRelay.Proofs.Connection.Handler
import EventRelay.Proofs.EventLog.OwnLine
import EventRelay.Proofs.Files.Parent

/-!
Appends that fail. Main statement: an append succeeds exactly if the log is a file that can be gone
on with, or is missing from a directory that is there; otherwise nothing has been changed, although
some of the calls that make up an append would empty the file.
-/

namespace EventRelay

namespace FileSystem

theorem descend_ne_isDirectory (fs : FileSystem) (l : Location) (names : List String) :
    fs.descend l names ≠ .error .isDirectory := by
  induction names generalizing l with
  | nil => simp [descend]
  | cons name names ih =>
    rw [descend]
    split
    · exact ih l
    · split
      · exact ih l.parent
      · split
        · simp
        · split
          · exact ih (l.child name)
          · simp
          · simp

theorem target_ne_isDirectory (fs : FileSystem) (path : Path) :
    fs.target path ≠ .error .isDirectory := by
  have walk := fs.descend_ne_isDirectory (fs.start path)
  rw [target_eq, textFault?]
  split
  · next fault =>
    split at fault
    · cases fault
      simp
    · split at fault
      · cases fault
        simp
      · split at fault <;> cases fault
        simp
  · rw [lastStep]
    split
    · simp
    · split
      · have := walk path.names
        cases h : fs.descend (fs.start path) path.names <;> simp_all [Except.map]
      · have := walk path.names.dropLast
        cases h : fs.descend (fs.start path) path.names.dropLast <;> simp_all [Except.map]

theorem find_ne_isDirectory (fs : FileSystem) (path : Path) :
    fs.find path ≠ .error .isDirectory := by
  have target := fs.target_ne_isDirectory path
  rw [find_eq]
  cases aimed : fs.target path with
  | error e =>
    rw [aimed] at target
    simpa using target
  | ok t =>
    simp only
    rcases looked : fs.look t with e | _ | ⟨content⟩ | _
    · unfold look at looked
      split at looked <;> cases looked
      simp
    · simp
    · cases t.slash <;> simp
    · simp

end FileSystem

namespace EventLog

variable {log : EventLog} {fs fs' : FileSystem} {e : LogEntry}

def settled (log : EventLog) (line : String) (fs : FileSystem) : Outcome Unit × FileSystem :=
  match log.room line fs with
  | .error f => (.error f, fs)
  | .ok r => match fs.openForWriting log.path with
    | .error error => (.error (log.failure "open" error), fs)
    | .ok (l, _) => (.ok (), fs.put l (.file r.content))

theorem append_eq (log : EventLog) (e : LogEntry) (fs : FileSystem) :
    log.append e fs = match log.room e.render fs with
      | .error f => .error f
      | .ok r => match fs.openForWriting log.path with
        | .error error => .error (log.failure "open" error)
        | .ok (l, _) => .ok (fs.put l (.file r.content)) := by
  unfold append start
  cases log.room e.render fs with
  | error f => rfl
  | ok r =>
    rcases fs.openForWriting log.path with error | ⟨l, old⟩
    · rfl
    · change Except.ok (Pending.finish ⟨l, r.added⟩ (fs.put l (.file r.kept))) = _
      rw [Pending.finish_of_at? (if_pos rfl), FileSystem.put_put]
      rfl

theorem Calls.on_bind {α β : Type} (first : Calls α) (next : α → Calls β) (fs : FileSystem) :
    Calls.on (first >>= next) fs = match first.on fs with
      | (.error f, fs') => (.error f, fs')
      | (.ok a, fs') => (next a).on fs' := by
  have ran : Calls.on (first >>= next) fs = ExceptT.bindCont next (first.on fs).1 (first.on fs).2 :=
    rfl
  rw [ran]
  rcases first.on fs with ⟨_ | a, fs'⟩ <;> rfl

theorem on_opening (log : EventLog) (operation : String) (truncate : Bool) (fs : FileSystem) :
    (log.opening operation truncate).on fs = match fs.openForWriting log.path with
      | .error e => (.error (log.failure operation e), fs)
      | .ok (l, old) => (.ok l, fs.put l (.file (if truncate then [] else old.getD []))) := rfl

theorem on_adding (log : EventLog) (operation : String) (truncate : Bool) (added : Bytes)
    (fs : FileSystem) :
    (log.adding operation truncate added).on fs = match fs.openForWriting log.path with
      | .error e => (.error (log.failure operation e), fs)
      | .ok (l, old) =>
        (.ok (), fs.put l (.file ((if truncate then [] else old.getD []) ++ added))) := by
  rw [adding, Calls.on_bind, on_opening]
  rcases fs.openForWriting log.path with e | ⟨l, old⟩
  · rfl
  · simp only
    change (_, Pending.finish _ _) = _
    rw [Pending.finish_of_at? (if_pos rfl), FileSystem.put_put]

theorem on_addingBehind {l : Location} {old : Option Bytes} {content : String}
    (opens : fs.openForWriting log.path = .ok (l, old)) (there : old.getD [] = .ofString content)
    (line : String) : (log.addingBehind content line).on fs =
      (.ok (), fs.put l (.file (roomWithinLines log.maxLines content line).content)) := by
  rw [addingBehind, roomWithinLines]
  split
  · rw [on_adding, opens]
    simp only [Bool.false_eq_true, if_false, there]
    rfl
  · rw [on_adding, opens]
    rfl

theorem on_addingBehind_nothing (least : 0 < log.maxLines) (line : String) :
    (log.addingBehind "" line).on fs = (log.adding "open" false (.ofString line)).on fs := by
  have none : Text.lines "" = [] := by decide +kernel
  have few : (Text.lines "").length < log.maxLines := by rwa [none]
  rw [addingBehind, if_pos few]

theorem on_asking {α β : Type} (look : FileSystem → SystemResult α)
    (next : SystemResult α → Calls β) :
    (asking look >>= next).on fs = (next (look fs)).on fs := rfl

theorem on_addingWithinBytes (directorySize : Nat) (line : String)
    (rotation : log.rotation = .size) :
    (log.addingWithinBytes directorySize (.ofString line)).on fs = log.settled line fs := by
  rw [addingWithinBytes, on_asking, settled, room, rotation]
  cases found : fs.find log.path with
  | ok leads =>
    obtain ⟨l, node⟩ := leads
    cases node with
    | file content =>
      simp only [on_adding, FileSystem.openForWriting_of_find found,
        FileSystem.read_of_find found, decide_eq_true_eq]
      rfl
    | directory =>
      have read : fs.read log.path = .error .isDirectory := by
        rw [FileSystem.read, found]
        rfl
      simp only [on_adding, read]
      rcases opens : fs.openForWriting log.path with error | ⟨l, old⟩
      · rfl
      · cases (FileSystem.missing_of_unread read opens).1
  | error e =>
    have read : fs.read log.path = .error e := by
      rw [FileSystem.read, found]
      rfl
    cases e with
    | notFound =>
      simp only [on_adding, read, decide_eq_true_eq]
      rcases opens : fs.openForWriting log.path with error | ⟨l, old⟩
      · rfl
      · obtain ⟨-, rfl⟩ := FileSystem.missing_of_unread read opens
        rfl
    | isDirectory => exact absurd found (fs.find_ne_isDirectory log.path)
    | _ =>
      simp only [read]
      rfl

theorem on_addingWithinLines (least : 0 < log.maxLines) (line : String)
    (rotation : log.rotation = .lines) :
    (log.addingWithinLines line).on fs = log.settled line fs := by
  rw [addingWithinLines, on_asking, settled, room, rotation]
  cases text : fs.readText log.path with
  | ok content =>
    obtain ⟨l, found⟩ := FileSystem.find_of_readText text
    have opens := FileSystem.openForWriting_of_find found
    simp only [on_addingBehind opens rfl, opens]
  | error e =>
    cases e with
    | notFound =>
      rcases opens : fs.openForWriting log.path with error | ⟨l, old⟩
      · simp only [on_addingBehind_nothing least, on_adding, opens]
      · have read := FileSystem.read_of_openForWriting opens
        cases old with
        | some content =>
          rw [FileSystem.readText_of_read read] at text
          cases h : content.toString? <;> rw [h] at text <;> cases text
        | none => simp only [on_addingBehind opens Bytes.ofString_empty.symm]
    | _ => rfl

theorem on_calls (least : 0 < log.maxLines) (directorySize : Nat) (e : LogEntry)
    (fs : FileSystem) :
    (log.calls directorySize e).on fs = match log.append e fs with
      | .error f => (.error f, fs)
      | .ok fs' => (.ok (), fs') := by
  have called : (log.calls directorySize e).on fs = log.settled e.render fs := by
    rw [calls]
    cases rotation : log.rotation with
    | size => exact on_addingWithinBytes directorySize e.render rotation
    | lines => exact on_addingWithinLines least e.render rotation
  rw [called, settled, append_eq]
  cases log.room e.render fs with
  | error f => rfl
  | ok r => rcases fs.openForWriting log.path with error | ⟨l, old⟩ <;> rfl

theorem append_ok_iff_opens : (∃ fs', log.append e fs = .ok fs') ↔
    ∃ l old, fs.openForWriting log.path = .ok (l, old) ∧ log.Readable (old.getD []) := by
  cases log.outlook fs with
  | fails f failed =>
    have refused : log.append e fs = .error f := by
      rw [append, failed]
      rfl
    constructor
    · rintro ⟨fs', appended⟩
      rw [refused] at appended
      cases appended
    · rintro ⟨l, old, opens, readable⟩
      obtain ⟨_, _, started, -⟩ := start_of_opens opens readable e
      rw [failed] at started
      cases started
  | opens l old opens readable =>
    obtain ⟨_, fs', -, appended, -⟩ := append_of_opens opens readable e
    exact iff_of_true ⟨fs', appended⟩ ⟨l, old, opens, readable⟩

theorem category_of_room {line : String} {f : Failure} (failed : log.room line fs = .error f) :
    f.category = .persistence := by
  unfold room at failed
  split at failed
  · split at failed <;> cases failed
    rfl
  · split at failed <;> cases failed
    rfl

theorem category_of_append {f : Failure} (failed : log.append e fs = .error f) :
    f.category = .persistence := by
  rw [append_eq] at failed
  cases room : log.room e.render fs with
  | error f' =>
    rw [room] at failed
    cases failed
    exact category_of_room room
  | ok r =>
    rw [room] at failed
    rcases opens : fs.openForWriting log.path with error | ⟨l, old⟩ <;> rw [opens] at failed <;>
      cases failed
    rfl

theorem endsIn_of_create {c : LogConfig} (opened : (create c fs).2 = .ok log) :
    log = ofConfig c ∧ ∃ before last, FileSystem.EndsIn log.path before last ∧
      last.utf8ByteSize ≤ FileSystem.maxName := by
  rcases created : create c fs with ⟨fs', result⟩
  rw [created] at opened
  obtain rfl : result = .ok log := opened
  obtain ⟨rfl, made, l, old, -, -, opens, -⟩ := create_ok created
  exact ⟨rfl, FileSystem.endsIn_of_openForWriting opens⟩

/--
An append to a log that was opened once succeeds exactly if there is a file at its path now, which
is text if lines are counted, or nothing but a directory for it. Any other append fails to persist
the entry, whereupon the files are as they were: after its calls, and when the connection goes on.
-/
theorem append_ok_or_unchanged {c : LogConfig} {earlier : FileSystem}
    (opened : (create c earlier).2 = .ok log) (tree : fs.IsTree) (e : LogEntry)
    (directorySize : Nat) :
    ((∃ fs', log.append e fs = .ok fs') ↔
      (∃ l content, fs.find log.path = .ok (l, .file content) ∧
        (log.rotation = .lines → ∃ text, content = .ofString text)) ∨
      fs.find log.path = .error .notFound ∧ fs.HasParent log.path) ∧
    (∀ fs', log.append e fs = .ok fs' → (log.calls directorySize e).on fs = (.ok (), fs')) ∧
    ∀ f, log.append e fs = .error f → f.category = .persistence ∧
      (log.calls directorySize e).on fs = (.error f, fs) ∧
      ∀ (h : Handler) (caller : Caller) (event : Event), h.log = log →
        h.step caller fs (.logging event e) =
          { files := fs
            effects := [.logged (.error f)]
            stage := .delivering event (.error f) } := by
  obtain ⟨rfl, before, last, ends, short⟩ := endsIn_of_create opened
  have ran := on_calls (maxLines_pos c) directorySize e fs
  refine ⟨append_ok_iff_opens.trans ?_, fun fs' appended => ?_, fun f failed => ?_⟩
  · constructor
    · rintro ⟨l, old, opens, readable⟩
      have there := (ends.opens_iff short tree).mp ⟨l, opens⟩
      cases old with
      | some content =>
        obtain ⟨l, found⟩ := there
        exact .inl ⟨l, content, found, readable⟩
      | none => exact .inr there
    · rintro (⟨l, content, found, readable⟩ | missing)
      · exact ⟨l, some content, FileSystem.openForWriting_of_find found, readable⟩
      · obtain ⟨l, opens⟩ : ∃ l, fs.openForWriting (ofConfig c).path = .ok (l, none) :=
          (ends.opens_iff short tree).mpr missing
        exact ⟨l, none, opens, fun _ => ⟨"", Bytes.ofString_empty.symm⟩⟩
  · rw [ran, appended]
  · refine ⟨category_of_append failed, by rw [ran, failed], ?_⟩
    rintro h caller event same
    rw [Handler.step, same, append_eq_error failed]

theorem append_ok_or_unchanged_of_binary :
    let c : LogConfig := { path := ⟨"log"⟩, rotation := .lines }
    let log := ofConfig c
    let fs := FileSystem.empty.put (.child .root "log") (.file [255])
    (create c .empty).2 = .ok log ∧ fs.IsTree ∧
      ∃ f, log.append ⟨0, "a"⟩ fs = .error f ∧ f.category = .persistence ∧
        (log.calls 4096 ⟨0, "a"⟩).on fs = (.error f, fs) := by
  intro c log fs
  have name := FileSystem.isName_of_plain "log" (by decide)
  have opens : FileSystem.empty.openForWriting log.path = .ok (.child .root "log", none) :=
    name.openForWriting rfl
  obtain ⟨start, created⟩ := create_empty c name rfl
  have opened : (create c .empty).2 = .ok log := congrArg Prod.snd created
  have tree : fs.IsTree := FileSystem.isTree_empty.put_of_openForWriting opens [255]
  have found : fs.find log.path = .ok (.child .root "log", .file [255]) :=
    name.find rfl
  obtain ⟨succeeds, -, fails⟩ := append_ok_or_unchanged opened tree ⟨0, "a"⟩ 4096
  have refused : ¬ ∃ fs', log.append ⟨0, "a"⟩ fs = .ok fs' := by
    rw [succeeds, found]
    rintro (⟨_, _, there, text⟩ | ⟨missing, -⟩)
    · cases there
      obtain ⟨text, written⟩ := text rfl
      have none : Bytes.toString? [255] = none := by decide +kernel
      rw [written, Bytes.toString?_ofString] at none
      cases none
    · cases missing
  cases appended : log.append ⟨0, "a"⟩ fs with
  | ok fs' => exact absurd ⟨fs', appended⟩ refused
  | error f =>
    obtain ⟨persistence, unchanged, -⟩ := fails f appended
    exact ⟨opened, tree, f, rfl, persistence, unchanged⟩

end EventLog

end EventRelay
