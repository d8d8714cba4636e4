import EventRelay.PidFile
import EventRelay.Proofs.Files.Storage
import EventRelay.Proofs.Text.Blank
import EventRelay.Proofs.Text.Number

namespace EventRelay

/-- The file has the number of its process in it. -/
def PidFile.Recorded (p : PidFile) (fs : FileSystem) : Prop :=
  fs.read p.path = .ok (.ofString (text p.pid))

def PidFile.Claim.Sound (ps : Processes) (path : Path) (fs : FileSystem) : Claim → Prop
  | .settled (.ok p) => p = ⟨path, ps.self⟩ ∧ p.Recorded fs
  | _ => True

theorem PidFile.Claim.Sound.step {ps : Processes} {path : Path} {fs : FileSystem} {claim : Claim}
    (h : claim.Sound ps path fs) :
    (claim.step ps path fs).2.Sound ps path (claim.step ps path fs).1 := by
  unfold Claim.step
  split
  · trivial
  · trivial
  · trivial
  · trivial
  · split <;> trivial
  · split
    · trivial
    · next written => exact ⟨rfl, FileSystem.read_of_write written⟩
  · exact h

theorem PidFile.Claim.ok_of_step {ps : Processes} {path : Path} {fs : FileSystem} {claim : Claim}
    {p : PidFile} (settled : (claim.step ps path fs).2 = .settled (.ok p)) :
    claim = .settled (.ok p) ∨
      claim = .recording ∧ p = ⟨path, ps.self⟩ ∧ p.Recorded (claim.step ps path fs).1 := by
  have sound := @Sound.step ps path fs claim
  unfold step at settled sound
  split at settled
  · cases settled
  · cases settled
  · cases settled
  · cases settled
  · split at settled <;> cases settled
  · have written := sound trivial
    rw [settled] at written
    exact .inr ⟨rfl, written⟩
  · exact .inl settled

namespace PidFile

theorem ofString_text_ne_nil (pid : Nat) : Bytes.ofString (text pid) ≠ [] := by
  have feed : Bytes.ofString (text pid) = Bytes.ofString (toString pid) ++ [10] :=
    Bytes.ofString_feed _
  rw [feed]
  simp

theorem release_files (p : PidFile) (fs : FileSystem) :
    (p.release fs).1 = fs ∨ ∃ l content, fs.find p.path = .ok (l, .file content) ∧
      (p.release fs).1 = fs.erase l := by
  unfold release
  split
  · exact .inl rfl
  · split
    · exact .inl rfl
    · unfold FileSystem.removeFile
      rcases fs.find p.path with e | ⟨l, ⟨content⟩ | _⟩
      · exact .inl rfl
      · exact .inr ⟨l, content, rfl, rfl⟩
      · exact .inl rfl

theorem run_release (p : PidFile) (fs : FileSystem) :
    Release.run p 3 (fs, .reading) = ((p.release fs).1, .settled (p.release fs).2) := by
  simp only [Release.run, release]
  cases named : read fs p.path with
  | error e => simp only [Release.step, named]
  | ok named' =>
    cases foreign : named'.any (· != p.pid) with
    | true => simp only [Release.step, named, foreign, if_true, true_or]
    | false =>
      cases there : fs.exists? p.path with
      | false => simp [Release.step, named, foreign, there]
      | true =>
        simp only [Release.step, named, foreign, there, if_true, Bool.false_eq_true, if_false,
          not_true_eq_false, or_self]
        cases fs.removeFile p.path <;> rfl

theorem named?_text_eq (pid : Nat) :
    named? (text pid) = if pid ≤ Text.max32 then some pid else none := by
  have shown : (text pid).toList = Nat.toDigits 10 pid ++ ['\n'] := by
    simp [text]
    rfl
  have noBlank : ∀ c ∈ Nat.toDigits 10 pid, Text.isBlank c = false := fun _ mem =>
    Text.isBlank_of_isDigit (Text.isDigit_of_mem_toDigits mem)
  rw [named?, Text.trim, shown, Text.trimList_concat_blank noBlank (by decide)]
  exact Text.parseNat?_toDigits _ pid

theorem named?_text {pid : Nat} (small : pid ≤ Text.max32) : named? (text pid) = some pid := by
  rw [named?_text_eq, if_pos small]

section Recorded

variable {p : PidFile} {fs : FileSystem} {ps : Processes}

theorem Recorded.read (recorded : p.Recorded fs) (small : p.pid ≤ Text.max32) :
    read fs p.path = .ok (some p.pid) := by
  obtain ⟨l, found⟩ := FileSystem.find_of_read recorded
  rw [PidFile.read, FileSystem.readText_of_find found]
  exact congrArg Except.ok (named?_text small)

theorem Recorded.exists? (recorded : p.Recorded fs) : fs.exists? p.path = true := by
  obtain ⟨l, found⟩ := FileSystem.find_of_read recorded
  rw [FileSystem.exists?, found]
  rfl

theorem Recorded.release (recorded : p.Recorded fs) :
    ∃ files, p.release fs = (files, .ok ()) ∧ files.exists? p.path = false := by
  obtain ⟨l, found⟩ := FileSystem.find_of_read recorded
  have named : PidFile.read fs p.path = .ok (named? (text p.pid)) := by
    rw [PidFile.read, FileSystem.readText_of_find found]
  have own : (named? (text p.pid)).any (· != p.pid) = false := by
    rw [named?_text_eq]
    split <;> simp
  refine ⟨fs.erase l, ?_, FileSystem.exists?_erase found⟩
  simp [PidFile.release, named, own, recorded.exists?, FileSystem.removeFile_of_find found]

/-- It has read the file, though not that it names the process `pid`, and may remove it. -/
def Lookup.isOutdated (pid : Nat) : Lookup → Bool
  | .judging named => named != some pid
  | .removing => true
  | _ => false

def Release.isOutdated : Release → Bool
  | .checking | .removing => true
  | _ => false

theorem Lookup.step_of_recorded (recorded : p.Recorded fs) (small : p.pid ≤ Text.max32)
    (live : blocks ps p.pid = true) {l : Lookup} (current : l.isOutdated p.pid = false) :
    (l.step ps p.path fs).1 = fs ∧ (l.step ps p.path fs).2.isOutdated p.pid = false := by
  cases l with
  | looking => simp [step, recorded.exists?, isOutdated]
  | reading => simp [step, recorded.read small, isOutdated]
  | judging named =>
    obtain rfl : named = some p.pid := by simpa [isOutdated] using current
    simp [step, live, isOutdated]
  | removing => cases current
  | found result => exact ⟨rfl, rfl⟩

theorem Release.step_of_recorded (recorded : p.Recorded fs) (small : p.pid ≤ Text.max32)
    {q : PidFile} (path : q.path = p.path) (other : q.pid ≠ p.pid) {r : Release}
    (current : r.isOutdated = false) :
    (r.step q fs).1 = fs ∧ (r.step q fs).2.isOutdated = false := by
  cases r with
  | reading => simp [step, path, recorded.read small, other.symm, isOutdated]
  | checking | removing => cases current
  | settled result => exact ⟨rfl, rfl⟩

end Recorded

theorem Lookup.steps_of_blocks {ps : Processes} {fs : FileSystem} {path : Path} {pid : Nat}
    (there : fs.exists? path = true) (named : read fs path = .ok (some pid))
    (live : blocks ps pid = true) :
    Lookup.step ps path fs .looking = (fs, .reading) ∧
      Lookup.step ps path fs .reading = (fs, .judging (some pid)) ∧
      Lookup.step ps path fs (.judging (some pid)) = (fs, .found (.ok (some pid))) := by
  refine ⟨?_, ?_, ?_⟩
  · simp only [step, there, if_true]
  · simp only [step, named]
  · simp only [step, live, if_true]

/-- A look-up removes the file. -/
def IsStale (ps : Processes) (fs : FileSystem) (path : Path) : Prop :=
  fs.exists? path = true ∧ ∃ named, read fs path = .ok named ∧
    ∀ pid, named = some pid → blocks ps pid = false

theorem Recorded.isStale {p : PidFile} {fs : FileSystem} {ps : Processes} (recorded : p.Recorded fs)
    (small : p.pid ≤ Text.max32) (dead : blocks ps p.pid = false) : IsStale ps fs p.path := by
  refine ⟨recorded.exists?, _, recorded.read small, ?_⟩
  rintro _ ⟨⟩
  exact dead

theorem Lookup.steps_of_isStale {ps : Processes} {fs : FileSystem} {path : Path}
    (h : IsStale ps fs path) :
    ∃ named, Lookup.step ps path fs .looking = (fs, .reading) ∧
      Lookup.step ps path fs .reading = (fs, .judging named) ∧
      Lookup.step ps path fs (.judging named) = (fs, .removing) := by
  obtain ⟨there, named, read, dead⟩ := h
  refine ⟨named, by simp only [step, there, if_true], by simp only [step, read], ?_⟩
  cases named with
  | none => rfl
  | some pid => simp [step, dead]

theorem Lookup.run_of_isStale {ps : Processes} {fs : FileSystem} {path : Path}
    (h : IsStale ps fs path) : Lookup.run ps path 3 (fs, .looking) = (fs, .removing) := by
  obtain ⟨named, looking, reading, judging⟩ := steps_of_isStale h
  simp only [run, looking, reading, judging]

section Lookup

variable {ps : Processes} {path : Path} {fs before files : FileSystem}

theorem category_of_read {f : Failure} (failed : read fs path = .error f) : f.category = .io := by
  unfold read at failed
  split at failed <;> cases failed
  rfl

theorem find_of_exists (there : fs.exists? path = true) {named : Option Nat}
    (named_eq : read fs path = .ok named) :
    ∃ l content, fs.find path = .ok (l, .file content) := by
  unfold FileSystem.exists? at there
  rcases found : fs.find path with e | ⟨l, ⟨content⟩ | _⟩
  · rw [found] at there
    cases there
  · exact ⟨l, content, rfl⟩
  · have refused : fs.readText path = .error .isDirectory := by
      rw [FileSystem.readText, FileSystem.read, found]
      rfl
    rw [read, refused] at named_eq
    cases named_eq

/-- What a look-up has found out in the files from `before`, and what it has made of them. -/
def Lookup.Faithful (ps : Processes) (path : Path) (before files : FileSystem) : Lookup → Prop
  | .looking => files = before
  | .reading => files = before ∧ before.exists? path = true
  | .judging named =>
    files = before ∧ before.exists? path = true ∧ read before path = .ok named
  | .removing => files = before ∧ ∃ l content, before.find path = .ok (l, .file content)
  | .found (.error e) => files = before ∧ read before path = .error e
  | .found (.ok (some pid)) =>
    files = before ∧ read before path = .ok (some pid) ∧ blocks ps pid = true
  | .found (.ok none) =>
    files = before ∧ before.exists? path = false ∨
      ∃ l content, before.find path = .ok (l, .file content) ∧ files = before.erase l

theorem Lookup.Faithful.step {l : Lookup} (h : l.Faithful ps path before files) :
    (l.step ps path files).2.Faithful ps path before (l.step ps path files).1 := by
  cases l with
  | looking =>
    obtain rfl : files = before := h
    cases there : files.exists? path with
    | true => simp only [Lookup.step, there, if_true]; exact ⟨rfl, there⟩
    | false =>
      simp only [Lookup.step, there, Bool.false_eq_true, if_false]
      exact .inl ⟨rfl, there⟩
  | reading =>
    obtain ⟨rfl, there⟩ := h
    cases named : read files path with
    | error e => simp only [Lookup.step, named]; exact ⟨rfl, named⟩
    | ok pid => simp only [Lookup.step, named]; exact ⟨rfl, there, named⟩
  | judging named =>
    obtain ⟨rfl, there, named_eq⟩ := h
    have file := find_of_exists there named_eq
    cases named with
    | none => exact ⟨rfl, file⟩
    | some pid =>
      cases live : blocks ps pid with
      | true => simp only [Lookup.step, live, if_true]; exact ⟨rfl, named_eq, live⟩
      | false =>
        simp only [Lookup.step, live, Bool.false_eq_true, if_false]
        exact ⟨rfl, file⟩
  | removing =>
    obtain ⟨rfl, l, content, found⟩ := h
    simp only [Lookup.step, FileSystem.removeFile_of_find found]
    exact .inr ⟨l, content, found, rfl⟩
  | found result => exact h

end Lookup

def Lookup.left : Lookup → Nat
  | .looking => 4
  | .reading => 3
  | .judging _ => 2
  | .removing => 1
  | .found _ => 0

theorem Lookup.left_pos (l : Lookup) (failed : ∀ e, l ≠ .found (.error e))
    (running : ∀ pid, l ≠ .found (.ok (some pid))) (free : l ≠ .found (.ok none)) : 0 < l.left := by
  rcases l with _ | _ | _ | _ | e | _ | pid
  · exact Nat.zero_lt_succ 3
  · exact Nat.zero_lt_succ 2
  · exact Nat.zero_lt_succ 1
  · exact Nat.zero_lt_succ 0
  · exact absurd rfl (failed e)
  · exact absurd rfl free
  · exact absurd rfl (running pid)

theorem Lookup.left_step (ps : Processes) (path : Path) (fs : FileSystem) (l : Lookup) :
    (l.step ps path fs).2.left ≤ l.left - 1 := by
  cases l with
  | looking => simp only [step]; split <;> simp [left]
  | reading => simp only [step]; split <;> simp [left]
  | judging named =>
    cases named with
    | none => exact Nat.le_refl 1
    | some pid => simp only [step]; split <;> simp [left]
  | removing => simp only [step]; split <;> simp [left]
  | found => exact Nat.le_refl 0

def Claim.left : Claim → Nat
  | .checking l => l.left + 3
  | .preparing => 2
  | .recording => 1
  | .settled _ => 0

theorem Claim.left_pos (claim : Claim) (unsettled : ∀ result, claim ≠ .settled result) :
    0 < claim.left := by
  cases claim with
  | settled result => exact absurd rfl (unsettled result)
  | _ => exact Nat.zero_lt_succ _

theorem Claim.left_step (ps : Processes) (path : Path) (fs : FileSystem) (claim : Claim) :
    (claim.step ps path fs).2.left ≤ claim.left - 1 := by
  unfold step
  split
  · exact Nat.zero_le _
  · exact Nat.zero_le _
  · exact Nat.le_refl 2
  · next l failed running free =>
    have less := l.left_step ps path fs
    have unfinished := l.left_pos failed running free
    simp only [left]
    omega
  · split <;> simp [left]
  · split <;> exact Nat.le_refl 0
  · exact Nat.le_refl 0

end PidFile

end EventRelay
