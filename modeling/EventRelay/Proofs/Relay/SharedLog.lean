import EventRelay.Proofs.Connection.Handler
import EventRelay.Proofs.EventLog.Rotation

/-!
The log that connections share. Main statement: whichever connection takes the next step, the file
holds what is kept of the entries appended so far, or the one connection that has the lock is about
to complete it.
-/

namespace EventRelay.Relay

variable {h : Handler} {l : Location} {connections : List (Caller × Stage)} {fs fs' : FileSystem}
  {appended : List LogEntry} {i : Nat} {c : Caller} {stage stage' : Stage}

def OthersUnlocked (connections : List (Caller × Stage)) (i : Nat) : Prop :=
  ∀ j x, j ≠ i → connections[j]? = some x → x.2.holdsLock = false

/-- What the file of the log has in it, depending on who has the lock. -/
inductive LogState (h : Handler) (l : Location) (connections : List (Caller × Stage))
    (fs : FileSystem) (appended : List LogEntry) : Prop
  | free (unlocked : ∀ x ∈ connections, x.2.holdsLock = false)
    (found : fs.find h.log.path =
      .ok (l, .file (.ofString (EventLog.record (h.log.kept appended)))))
  | locked (i : Nat) (c : Caller) (event : Event) (p : EventLog.Pending) (e : LogEntry)
    (writing : connections[i]? = some (c, .writing event p)) (others : OthersUnlocked connections i)
    (entry : h.entryOf? c = some e) (begun : h.log.Begun fs l (h.log.kept appended) e p)

theorem LogState.frame (state : LogState h l connections fs appended)
    (same : ∀ content, fs.find h.log.path = .ok (l, .file content) →
      fs'.find h.log.path = .ok (l, .file content)) : LogState h l connections fs' appended := by
  cases state with
  | free unlocked found => exact .free unlocked (same _ found)
  | locked i c event p e writing others entry begun =>
    exact .locked i c event p e writing others entry ⟨begun.pending, same _ begun.found⟩

theorem LogState.accept (state : LogState h l connections fs appended) (c : Caller) :
    LogState h l (connections ++ [(c, .waiting)]) fs appended := by
  cases state with
  | free unlocked found =>
    refine .free (fun x hx => ?_) found
    rcases List.mem_append.mp hx with old | new
    · exact unlocked x old
    · rw [List.mem_singleton.mp new]
      rfl
  | locked i c' event p e writing others entry begun =>
    have inside : i < connections.length := (List.getElem?_eq_some_iff.mp writing).1
    refine .locked i c' event p e ?_ (fun j x other found => ?_) entry begun
    · rw [List.getElem?_append_left inside, writing]
    · rw [List.getElem?_append] at found
      split at found
      · exact others j x other found
      · rw [List.getElem?_singleton] at found
        split at found <;> cases found
        rfl

theorem LogState.quiet (state : LogState h l connections fs appended)
    (before : connections[i]? = some (c, stage)) (unlocked : stage.holdsLock = false)
    (unlocked' : stage'.holdsLock = false) :
    LogState h l (connections.set i (c, stage')) fs appended := by
  cases state with
  | free free found =>
    refine .free (fun x hx => ?_) found
    rcases List.mem_or_eq_of_mem_set hx with old | rfl
    · exact free x old
    · exact unlocked'
  | locked j c' event p e writing others entry begun =>
    have ne : j ≠ i := by
      rintro rfl
      rw [before] at writing
      cases writing
      cases unlocked
    refine .locked j c' event p e ?_ (fun k x other found => ?_) entry begun
    · rw [List.getElem?_set_ne ne.symm, writing]
    · rw [List.getElem?_set] at found
      split at found
      · split at found <;> cases found
        exact unlocked'
      · exact others k x other found

theorem LogState.start (state : LogState h l connections fs appended)
    (before : connections[i]? = some (c, stage)) (free : ∀ x ∈ connections, x.2.holdsLock = false)
    {entry : LogEntry} (accepted : h.entryOf? c = some entry) :
    ∃ kept p, h.log.start entry fs = .ok (fs.put l (.file kept), p) ∧
      fs.node? l ≠ some .directory ∧ ∀ event,
      LogState h l (connections.set i (c, .writing event p)) (fs.put l (.file kept)) appended := by
  cases state with
  | free _ found =>
    obtain ⟨kept, p, start, begun⟩ := EventLog.begun_of_find found entry
    refine ⟨kept, p, start, FileSystem.not_directory_of_find found, fun event => ?_⟩
    have inside : i < connections.length := (List.getElem?_eq_some_iff.mp before).1
    refine .locked i c event p entry ?_ (fun j x other found => ?_) accepted begun
    · rw [List.getElem?_set_self inside]
    · rw [List.getElem?_set_ne other.symm] at found
      exact free x (List.mem_of_getElem? found)
  | locked j c' event p e writing _ _ _ =>
    have := free _ (List.mem_of_getElem? writing)
    cases this

theorem LogState.finish (state : LogState h l connections fs appended) {event : Event}
    {p : EventLog.Pending} (before : connections[i]? = some (c, .writing event p))
    (stage' : Stage) (unlocked : stage'.holdsLock = false) :
    ∃ entry content, h.entryOf? c = some entry ∧ p.finish fs = fs.put l (.file content) ∧
      fs.node? l ≠ some .directory ∧
      LogState h l (connections.set i (c, stage')) (p.finish fs) (appended ++ [entry]) := by
  cases state with
  | free free _ =>
    have := free _ (List.mem_of_getElem? before)
    cases this
  | locked j c' event' p' e writing others entry begun =>
    have same : j = i := by
      by_contra ne
      have := others i _ (Ne.symm ne) before
      cases this
    subst same
    rw [before] at writing
    cases writing
    refine ⟨e, _, entry, begun.finish, FileSystem.not_directory_of_find begun.found, .free ?_ ?_⟩
    · intro x hx
      obtain ⟨k, found⟩ := List.mem_iff_getElem?.mp hx
      rw [List.getElem?_set] at found
      split at found
      · split at found <;> cases found
        exact unlocked
      · next ne => exact others k x (Ne.symm ne) found
    · rw [begun.finish, EventLog.kept_concat]
      exact FileSystem.find_put begun.found _

end EventRelay.Relay
