import EventRelay.Proofs.Files.Parent
import EventRelay.Proofs.PidFile.Whole

namespace EventRelay

def Processes.HasOther (ps : Processes) (pid : Nat) : Prop :=
  pid ≠ ps.self ∧ 1 ≤ pid ∧ pid ≤ maxPid ∧ ps.present pid = true

namespace PidFile

variable {ps : Processes} {path : Path} {fs files : FileSystem} {pid : Nat}

theorem blocks_iff : blocks ps pid = true ↔ ps.HasOther pid := by
  simp [blocks, Processes.isRunning, Processes.HasOther, Nat.lt_iff_add_one_le, and_assoc]

/-- The file is text, and the text is the number of a process but for blanks around it. -/
def Names (fs : FileSystem) (path : Path) (pid : Nat) : Prop :=
  ∃ l s, fs.find path = .ok (l, .file (.ofString s)) ∧
    Text.Numeral (Text.trim s) pid ∧ pid ≤ Text.max32

theorem named?_eq_some_iff {s : String} :
    named? s = some pid ↔ Text.Numeral (Text.trim s) pid ∧ pid ≤ Text.max32 :=
  Text.parseNat?_eq_some_iff

theorem read_of_find {l : Location} {s : String} (found : fs.find path = .ok (l, .file (.ofString s))) :
    read fs path = .ok (named? s) := by
  rw [read, FileSystem.readText_of_find found]

theorem read_of_not_text {l : Location} {content : Bytes}
    (found : fs.find path = .ok (l, .file content)) (invalid : content.toString? = none) :
    read fs path = .error (SystemError.invalidText.onFile path "read pid file") := by
  rw [read, FileSystem.readText_of_read (FileSystem.read_of_find found), invalid]
  rfl

theorem exists?_of_find {l : Location} {node : FileNode} (found : fs.find path = .ok (l, node)) :
    fs.exists? path = true := by
  rw [FileSystem.exists?, found]
  rfl

theorem runningPid_of_not_text {l : Location} {content : Bytes}
    (found : fs.find path = .ok (l, .file content)) (invalid : content.toString? = none) :
    runningPid fs ps path = (fs, .error (SystemError.invalidText.onFile path "read pid file")) :=
  runningPid_of_unread (exists?_of_find found) (read_of_not_text found invalid)

theorem acquire_of_not_text {l : Location} {content : Bytes}
    (found : fs.find path = .ok (l, .file content)) (invalid : content.toString? = none) :
    acquire fs ps path = (fs, .error (SystemError.invalidText.onFile path "read pid file")) := by
  rw [acquire_eq, runningPid_of_not_text found invalid]

theorem names_iff : Names fs path pid ↔ read fs path = .ok (some pid) := by
  constructor
  · rintro ⟨l, s, found, named⟩
    rw [read_of_find found, named?_eq_some_iff.mpr named]
  · intro named
    cases text : fs.readText path with
    | error e =>
      rw [read, text] at named
      split at named <;> simp_all
    | ok s =>
      obtain ⟨l, found⟩ := FileSystem.find_of_readText text
      rw [read_of_find found] at named
      exact ⟨l, s, found, named?_eq_some_iff.mp (Except.ok.inj named)⟩

theorem Names.exists? (named : Names fs path pid) : fs.exists? path = true := by
  obtain ⟨l, s, found, -⟩ := named
  exact exists?_of_find found

theorem isStale_of_idle {l : Location} {s : String}
    (found : fs.find path = .ok (l, .file (.ofString s)))
    (idle : ∀ pid, Names fs path pid → ¬ ps.HasOther pid) : IsStale ps fs path := by
  refine ⟨exists?_of_find found, _, read_of_find found, fun pid named => ?_⟩
  rw [Bool.eq_false_iff, ne_eq, blocks_iff]
  exact idle pid ⟨l, s, found, named?_eq_some_iff.mp named⟩

theorem eq_of_record {p : PidFile} (recorded : (record fs ps path).2 = .ok p) :
    p = ⟨path, ps.self⟩ := by
  unfold record at recorded
  split at recorded
  · cases recorded
  · split at recorded <;> cases recorded
    rfl

theorem eq_of_acquire {p : PidFile} (acquired : (acquire fs ps path).2 = .ok p) :
    p = ⟨path, ps.self⟩ := by
  rw [acquire_eq] at acquired
  split at acquired
  · cases acquired
  · cases acquired
  · exact eq_of_record acquired

theorem record_ne_alreadyRunning : (record fs ps path).2 ≠ .error (.alreadyRunning pid) := by
  intro refused
  cases category_of_record refused

theorem runningPid_of_names (named : Names fs path pid) (live : ps.HasOther pid) :
    runningPid fs ps path = (fs, .ok (some pid)) :=
  runningPid_of_blocks named.exists? (names_iff.mp named) (blocks_iff.mpr live)

theorem runningPid_eq_some_iff :
    (runningPid fs ps path).2 = .ok (some pid) ↔ Names fs path pid ∧ ps.HasOther pid := by
  constructor
  · intro found
    have looked := looked_runningPid fs ps path
    generalize runningPid fs ps path = out at looked found
    cases looked <;> cases found
    next named live => exact ⟨names_iff.mpr named, blocks_iff.mp live⟩
  · rintro ⟨named, live⟩
    rw [runningPid_of_names named live]

theorem acquire_refused_iff :
    (acquire fs ps path).2 = .error (.alreadyRunning pid) ↔
      Names fs path pid ∧ ps.HasOther pid := by
  rw [acquire_eq]
  constructor
  · intro refused
    have looked := looked_runningPid fs ps path
    generalize runningPid fs ps path = out at looked refused
    cases looked with
    | missing => exact absurd refused record_ne_alreadyRunning
    | unread unread =>
      cases refused
      cases category_of_read unread
    | blocked named live =>
      cases refused
      exact ⟨names_iff.mpr named, blocks_iff.mp live⟩
    | stale => exact absurd refused record_ne_alreadyRunning
  · rintro ⟨named, live⟩
    rw [runningPid_of_names named live]

theorem files_of_refused (refused : (acquire fs ps path).2 = .error (.alreadyRunning pid)) :
    (acquire fs ps path).1 = fs := by
  rw [acquire_eq] at refused ⊢
  have looked := looked_runningPid fs ps path
  generalize runningPid fs ps path = out at looked refused
  cases looked with
  | missing => exact absurd refused record_ne_alreadyRunning
  | unread => rfl
  | blocked => rfl
  | stale => exact absurd refused record_ne_alreadyRunning

theorem record_of_hasParent {l : Location} {old : Option Bytes} (parent : fs.HasParent path)
    (opened : fs.openForWriting path = .ok (l, old)) :
    record fs ps path = (fs.put l (.file (.ofString (text ps.self))), .ok ⟨path, ps.self⟩) := by
  have written : fs.write path (.ofString (text ps.self)) =
      .ok (fs.put l (.file (.ofString (text ps.self)))) := by
    rw [FileSystem.write, opened]
    rfl
  simp only [record, FileSystem.makeParent_of_hasParent parent, written]

theorem record_erase (tree : fs.IsTree) {l : Location} {content : Bytes}
    (found : fs.find path = .ok (l, .file content)) :
    ∃ files, record (fs.erase l) ps path = (files, .ok ⟨path, ps.self⟩) ∧
      files.read path = .ok (.ofString (text ps.self)) := by
  have keeps := FileSystem.KeepsDirectories.erase (FileSystem.not_directory_of_find found)
  have parent := keeps.hasParent (FileSystem.hasParent_of_find tree found)
  have opened := FileSystem.openForWriting_erase found
  exact ⟨_, record_of_hasParent parent opened,
    FileSystem.read_of_find (FileSystem.find_put_of_openForWriting opened _)⟩

section Release

variable {p : PidFile}

theorem release_of_foreign (named : Names fs p.path pid) (foreign : pid ≠ p.pid) :
    p.release fs = (fs, .ok ()) := by
  rw [release, names_iff.mp named]
  simp [foreign]

theorem release_ok (released : (p.release fs).2 = .ok ()) :
    (p.release fs).1.exists? p.path = false ∨
      ∃ pid, Names (p.release fs).1 p.path pid ∧ pid ≠ p.pid := by
  unfold release at released ⊢
  cases named : read fs p.path with
  | error e =>
    rw [named] at released
    cases released
  | ok named' =>
    rw [named] at released
    simp only at released ⊢
    split
    · next leaves =>
      rcases leaves with foreign | missing
      · obtain ⟨pid, rfl, other⟩ : ∃ pid, named' = some pid ∧ pid ≠ p.pid := by
          simpa [Option.any_eq_true] using foreign
        exact .inr ⟨pid, names_iff.mpr named, other⟩
      · exact .inl (Bool.not_eq_true _ ▸ missing)
    · next removes =>
      rw [if_neg removes] at released
      have there := Classical.not_not.mp (not_or.mp removes).2
      obtain ⟨l, content, found⟩ := find_of_exists there named
      rw [FileSystem.removeFile_of_find found]
      exact .inl (FileSystem.exists?_erase found)

end Release

/--
A file that names no live process but, at most, the one that acts. If it is text, whatever the text
is, a look-up removes it and finds nothing, and a claim replaces it; other bytes are an error for
both, and they stay.
-/
theorem idle_file_replaced (tree : fs.IsTree) {l : Location} {content : Bytes}
    (found : fs.find path = .ok (l, .file content))
    (idle : ∀ pid, Names fs path pid → ¬ ps.HasOther pid) :
    (∀ s, content.toString? = some s →
      runningPid fs ps path = (fs.erase l, .ok none) ∧ (fs.erase l).exists? path = false ∧
      ∃ files, acquire fs ps path = (files, .ok ⟨path, ps.self⟩) ∧
        files.read path = .ok (.ofString (toString ps.self ++ "\n"))) ∧
    (content.toString? = none →
      let e := SystemError.invalidText.onFile path "read pid file"
      runningPid fs ps path = (fs, .error e) ∧ acquire fs ps path = (fs, .error e)) := by
  refine ⟨fun s text => ?_, fun invalid => ?_⟩
  · rw [← Bytes.ofString_of_toString? text] at found
    have removed := runningPid_of_isStale found (isStale_of_idle found idle)
    refine ⟨removed, FileSystem.exists?_erase found, ?_⟩
    rw [acquire_eq, removed]
    exact record_erase tree found
  · exact ⟨runningPid_of_not_text found invalid, acquire_of_not_text found invalid⟩

theorem idle_file_replaced_of_large_number :
    let path : Path := ⟨"pid"⟩
    let ps : Processes := { self := 7, present := fun _ => true }
    let l := Location.root.child "pid"
    let fs := FileSystem.empty.put l (.file (.ofString "99999999999\n"))
    runningPid fs ps path = (fs.erase l, .ok none) ∧
      ∃ files, acquire fs ps path = (files, .ok ⟨path, 7⟩) ∧
        files.read path = .ok (.ofString "7\n") := by
  intro path ps l fs
  have tree : fs.IsTree := FileSystem.isTree_empty.put (by decide) rfl _
  have found : fs.find path = .ok (l, .file (.ofString "99999999999\n")) :=
    (FileSystem.isName_of_plain "pid" (by decide)).find rfl
  have idle : ∀ pid, Names fs path pid → ¬ ps.HasOther pid := by
    intro pid named
    have nothing : named? "99999999999\n" = none := by decide +kernel
    rw [names_iff, read_of_find found, nothing] at named
    cases named
  have seven : toString ps.self ++ "\n" = "7\n" := by decide +kernel
  obtain ⟨removed, -, files, claimed, recorded⟩ :=
    (idle_file_replaced tree found idle).1 _ (Bytes.toString?_ofString _)
  rw [seven] at recorded
  exact ⟨removed, files, claimed, recorded⟩

/-- A file with one byte that is no text keeps every process out, though none is running. -/
theorem binary_file_kept :
    let path : Path := ⟨"pid"⟩
    let ps : Processes := { self := 7, present := fun _ => false }
    let fs := FileSystem.empty.put (.child .root "pid") (.file [0xFF])
    let e : Failure := .file "pid" "read pid file" ["stream did not contain valid UTF-8"]
    (∀ pid, ¬ ps.HasOther pid) ∧ runningPid fs ps path = (fs, .error e) ∧
      acquire fs ps path = (fs, .error e) := by
  intro path ps fs e
  have found : fs.find path = .ok (.child .root "pid", .file [0xFF]) :=
    (FileSystem.isName_of_plain "pid" (by decide)).find rfl
  have invalid : Bytes.toString? [0xFF] = none := by decide +kernel
  refine ⟨fun pid other => ?_, runningPid_of_not_text found invalid,
    acquire_of_not_text found invalid⟩
  cases other.2.2.2

/--
A claim is refused for a process exactly if the file names it and it is another live one; nothing
changes then. A claim that succeeds is released whatever has become of the files by then: a file
that names another process stays as it is, and a release that succeeds leaves such a file or none.
-/
theorem ownership (fs : FileSystem) (ps : Processes) (path : Path) :
    (∀ pid, (acquire fs ps path).2 = .error (.alreadyRunning pid) ↔
      Names fs path pid ∧ pid ≠ ps.self ∧ 1 ≤ pid ∧ pid ≤ Text.maxSigned32 ∧
        ps.present pid = true) ∧
    (∀ pid, (acquire fs ps path).2 = .error (.alreadyRunning pid) →
      (acquire fs ps path).1 = fs) ∧
    ∀ p, (acquire fs ps path).2 = .ok p → ∀ files : FileSystem,
      (∀ pid, Names files path pid → pid ≠ ps.self → p.release files = (files, .ok ())) ∧
      ((p.release files).2 = .ok () → (p.release files).1.exists? path = false ∨
        ∃ pid, Names (p.release files).1 path pid ∧ pid ≠ ps.self) := by
  refine ⟨fun pid => acquire_refused_iff, fun pid => files_of_refused, fun p acquired files => ?_⟩
  obtain rfl := eq_of_acquire acquired
  exact ⟨fun pid named other => release_of_foreign (p := ⟨path, ps.self⟩) named other, release_ok⟩

theorem ownership_of_signed_number :
    let path : Path := ⟨"pid"⟩
    let ps : Processes := { self := 7, present := fun pid => pid == 9 }
    let fs := FileSystem.empty.put (.child .root "pid") (.file (.ofString " +09\n"))
    (acquire fs ps path).2 = .error (.alreadyRunning 9) ∧ (acquire fs ps path).1 = fs ∧
      (acquire .empty ps path).2 = .ok ⟨path, 7⟩ ∧
      (PidFile.mk path 7).release fs = (fs, .ok ()) := by
  intro path ps fs
  have pid := FileSystem.isName_of_plain "pid" (by decide)
  have found : fs.find path = .ok (.child .root "pid", .file (.ofString " +09\n")) := pid.find rfl
  have nine : named? " +09\n" = some 9 := by decide +kernel
  have named : Names fs path 9 := ⟨_, _, found, named?_eq_some_iff.mp nine⟩
  have refused : (acquire fs ps path).2 = .error (.alreadyRunning 9) :=
    ((ownership fs ps path).1 9).mpr ⟨named, by decide, by decide, by decide, rfl⟩
  have opened : FileSystem.empty.openForWriting path = .ok (.child .root "pid", none) :=
    pid.openForWriting rfl
  have missing : FileSystem.empty.exists? path = false := pid.exists? rfl
  have claimed : (acquire .empty ps path).2 = .ok ⟨path, 7⟩ := by
    rw [acquire_eq, runningPid_of_missing missing]
    exact congrArg Prod.snd (record_of_hasParent pid.hasParent opened)
  exact ⟨refused, (ownership fs ps path).2.1 9 refused, claimed,
    ((ownership .empty ps path).2.2 _ claimed fs).1 9 named (by decide)⟩

end PidFile

end EventRelay
