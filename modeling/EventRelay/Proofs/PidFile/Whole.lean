import EventRelay.Proofs.Files.Growth
import EventRelay.Proofs.PidFile

namespace EventRelay.PidFile

variable {ps : Processes} {path : Path} {fs : FileSystem}

theorem runningPid_of_missing (missing : fs.exists? path = false) :
    runningPid fs ps path = (fs, .ok none) := by
  simp [runningPid, Lookup.length, Lookup.run, Lookup.step, missing, Lookup.result]

theorem runningPid_of_unread {e : Failure} (there : fs.exists? path = true)
    (unread : read fs path = .error e) : runningPid fs ps path = (fs, .error e) := by
  simp [runningPid, Lookup.length, Lookup.run, Lookup.step, there, unread, Lookup.result]

theorem runningPid_of_blocks {pid : Nat} (there : fs.exists? path = true)
    (named : read fs path = .ok (some pid)) (live : blocks ps pid = true) :
    runningPid fs ps path = (fs, .ok (some pid)) := by
  obtain ⟨looking, reading, judging⟩ := Lookup.steps_of_blocks there named live
  have rests : Lookup.step ps path fs (.found (.ok (some pid))) =
    (fs, .found (.ok (some pid))) := rfl
  simp only [runningPid, Lookup.length, Lookup.run, looking, reading, judging, rests,
    Lookup.result]

theorem runningPid_of_isStale {l : Location} {content : Bytes}
    (found : fs.find path = .ok (l, .file content)) (stale : IsStale ps fs path) :
    runningPid fs ps path = (fs.erase l, .ok none) := by
  obtain ⟨named, looking, reading, judging⟩ := Lookup.steps_of_isStale stale
  have removing : Lookup.step ps path fs .removing = (fs.erase l, .found (.ok none)) := by
    rw [Lookup.step, FileSystem.removeFile_of_find found]
  simp only [runningPid, Lookup.length, Lookup.run, looking, reading, judging, removing,
    Lookup.result]

/-- What a look-up comes to, and what it makes of the files. -/
inductive Looked (ps : Processes) (path : Path) (fs : FileSystem) :
    FileSystem × Outcome (Option Nat) → Prop
  | missing (missing : fs.exists? path = false) : Looked ps path fs (fs, .ok none)
  | unread {e : Failure} (unread : read fs path = .error e) : Looked ps path fs (fs, .error e)
  | blocked {pid : Nat} (named : read fs path = .ok (some pid)) (live : blocks ps pid = true) :
    Looked ps path fs (fs, .ok (some pid))
  | stale {l : Location} {content : Bytes} (found : fs.find path = .ok (l, .file content))
    (stale : IsStale ps fs path) : Looked ps path fs (fs.erase l, .ok none)

theorem looked_runningPid (fs : FileSystem) (ps : Processes) (path : Path) :
    Looked ps path fs (runningPid fs ps path) := by
  cases there : fs.exists? path with
  | false =>
    rw [runningPid_of_missing there]
    exact .missing there
  | true =>
    cases named : read fs path with
    | error e =>
      rw [runningPid_of_unread there named]
      exact .unread named
    | ok pid =>
      by_cases dead : ∀ p, pid = some p → blocks ps p = false
      · have stale : IsStale ps fs path := ⟨there, pid, named, dead⟩
        obtain ⟨l, content, found⟩ := find_of_exists there named
        rw [runningPid_of_isStale found stale]
        exact .stale found stale
      · obtain ⟨p, rfl, live⟩ : ∃ p, pid = some p ∧ blocks ps p = true := by simpa using dead
        rw [runningPid_of_blocks there named live]
        exact .blocked named live

theorem Lookup.left_run (ps : Processes) (path : Path) (n : Nat) (fs : FileSystem) (l : Lookup) :
    (Lookup.run ps path n (fs, l)).2.left ≤ l.left - n := by
  induction n generalizing fs l with
  | zero => exact Nat.le_refl _
  | succ n ih =>
    have first := l.left_step ps path fs
    have rest := ih (l.step ps path fs).1 (l.step ps path fs).2
    change (Lookup.run ps path n ((l.step ps path fs).1, (l.step ps path fs).2)).2.left ≤ _
    omega

theorem run_looking (fs : FileSystem) (ps : Processes) (path : Path) :
    Lookup.run ps path Lookup.length (fs, .looking) =
      ((runningPid fs ps path).1, .found (runningPid fs ps path).2) := by
  have ended := Lookup.left_run ps path Lookup.length fs .looking
  rw [runningPid]
  rcases looked : Lookup.run ps path Lookup.length (fs, .looking) with ⟨files, l⟩
  rw [looked] at ended
  cases l with
  | found result => rfl
  | looking | reading | judging | removing => cases ended

theorem Lookup.run_found (result : Outcome (Option Nat)) (n : Nat) :
    Lookup.run ps path n (fs, .found result) = (fs, .found result) := by
  induction n with
  | zero => rfl
  | succ n ih =>
    rw [run]
    exact ih

theorem Claim.run_settled (result : Outcome PidFile) (n : Nat) :
    Claim.run ps path n (fs, .settled result) = (fs, .settled result) := by
  induction n with
  | zero => rfl
  | succ n ih =>
    rw [run]
    exact ih

theorem Claim.run_checking {n : Nat} {l : Lookup} {files : FileSystem}
    {result : Outcome (Option Nat)}
    (looked : Lookup.run ps path n (fs, l) = (files, .found result)) (k : Nat) :
    ∃ m, Claim.run ps path (n + k) (fs, .checking l) =
      Claim.run ps path (m + k) (files, .checking (.found result)) := by
  induction n generalizing fs l with
  | zero =>
    cases looked
    exact ⟨0, rfl⟩
  | succ n ih =>
    rw [Lookup.run] at looked
    have next : (∃ r, l = .found r) ∨ Claim.step ps path fs (.checking l) =
        ((l.step ps path fs).1, .checking (l.step ps path fs).2) := by
      rcases l with _ | _ | _ | _ | r
      · exact .inr rfl
      · exact .inr rfl
      · exact .inr rfl
      · exact .inr rfl
      · exact .inl ⟨r, rfl⟩
    rcases next with ⟨r, rfl⟩ | step
    · change Lookup.run ps path n (fs, .found r) = _ at looked
      rw [Lookup.run_found] at looked
      cases looked
      exact ⟨n + 1, rfl⟩
    · obtain ⟨m, checked⟩ := ih looked
      refine ⟨m, ?_⟩
      rw [Nat.add_right_comm, Claim.run, step]
      exact checked

def record (fs : FileSystem) (ps : Processes) (path : Path) : FileSystem × Outcome PidFile :=
  match fs.makeParent path "create pid file directory" with
  | (fs, .error e) => (fs, .error e)
  | (fs, .ok ()) =>
    match fs.write path (.ofString (text ps.self)) with
    | .error e => (fs, .error (e.onFile path "write pid file"))
    | .ok fs => (fs, .ok ⟨path, ps.self⟩)

theorem category_of_record {f : Failure} (failed : (record fs ps path).2 = .error f) :
    f.category = .io := by
  unfold record at failed
  split at failed
  · next unprepared =>
    cases failed
    exact FileSystem.category_of_makeParent unprepared
  · split at failed
    · cases failed
      rfl
    · cases failed

theorem acquire_eq (fs : FileSystem) (ps : Processes) (path : Path) :
    acquire fs ps path =
      match runningPid fs ps path with
      | (fs, .error e) => (fs, .error e)
      | (fs, .ok (some pid)) => (fs, .error (.alreadyRunning pid))
      | (fs, .ok none) => record fs ps path := by
  obtain ⟨m, checked⟩ := Claim.run_checking (run_looking fs ps path) 3
  rw [acquire, Claim.length, checked]
  rcases runningPid fs ps path with ⟨files, e | _ | pid⟩
  · simp only [Claim.run, Claim.step, Claim.run_settled]
  · simp only [Claim.run, Claim.step, record]
    rcases files.makeParent path "create pid file directory" with ⟨made, e | u⟩
    · simp only [Claim.run_settled]
    · cases written : made.write path (.ofString (text ps.self)) with
      | error e => simp only [written, Claim.run_settled]
      | ok files => simp only [written, Claim.run_settled]
  · simp only [Claim.run, Claim.step, Claim.run_settled]

end EventRelay.PidFile
