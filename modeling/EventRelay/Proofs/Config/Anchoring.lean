import EventRelay.Proofs.Config.Keys
import EventRelay.Proofs.Files.Parent

namespace EventRelay

namespace Path

theorem join_of_isAbsolute {p : Path} (absolute : p.isAbsolute) (base : Path) : base.join p = p :=
  if_pos absolute

theorem isAbsolute_join {base : Path} (absolute : base.isAbsolute) (p : Path) :
    (base.join p).isAbsolute := by
  rw [isAbsolute, beq_iff_eq, List.head?_eq_some_iff] at absolute
  obtain ⟨rest, starts⟩ := absolute
  unfold join
  split
  · assumption
  · split <;> simp [isAbsolute, starts]

theorem isRelative_iff {p : Path} : p.isRelative ↔ ¬ p.isAbsolute := by
  rw [isRelative, Bool.not_eq_true', Bool.not_eq_true]

theorem join_eq (base p : Path) : (if p.isRelative then base.join p else p) = base.join p := by
  split
  · rfl
  · next h => exact (join_of_isAbsolute (Classical.not_not.mp (mt isRelative_iff.mpr h)) base).symm

end Path

namespace FileSystem

variable (fs : FileSystem) (directory : Path)

theorem at?_enter : (fs.enter directory).at? = fs.at? := by
  unfold enter
  split <;> rfl

theorem node?_enter (l : Location) : (fs.enter directory).node? l = fs.node? l := by
  rw [node?, node?, at?_enter]

theorem descend_enter (l : Location) (names : List String) :
    (fs.enter directory).descend l names = fs.descend l names := by
  induction names generalizing l with
  | nil => rfl
  | cons name names ih => simp only [descend, node?_enter, ih]

theorem look_enter (t : Target) : (fs.enter directory).look t = fs.look t := by
  rw [look, look, node?_enter]

variable {p : Path}

theorem target_enter (absolute : p.isAbsolute) : (fs.enter directory).target p = fs.target p := by
  have start : (fs.enter directory).start p = fs.start p := by
    rw [FileSystem.start, FileSystem.start, if_pos absolute, if_pos absolute]
  simp only [target_eq, lastStep, start, descend_enter]

theorem find_enter (absolute : p.isAbsolute) : (fs.enter directory).find p = fs.find p := by
  simp only [find_eq, target_enter fs directory absolute, look_enter]

theorem openForWriting_enter (absolute : p.isAbsolute) :
    (fs.enter directory).openForWriting p = fs.openForWriting p := by
  simp only [openForWriting_eq, target_enter fs directory absolute, look_enter]

end FileSystem

namespace Config

/-- A file that the relay opens by itself: the key of its path, and the path if one is set. -/
structure OwnFile where
  key : Key Config
  path? : Config → Option Path
  content_key : ∀ c, key.content c = (path? c).map (.string ·.text)

def eventLog : OwnFile where
  key := .under "log" (·.log) <| .text "path" (·.path.text)
  path? c := some c.log.path
  content_key _ := rfl

def pidFile : OwnFile where
  key := .under "daemon" (·.daemon) <| .text "pid_file" (·.pidFile.text)
  path? c := some c.daemon.pidFile
  content_key _ := rfl

def diagnosticLog : OwnFile where
  key := .under "daemon" (·.daemon) <|
    .optionalText "diagnostic_log" fun d : DaemonConfig => d.diagnosticLog.map Path.text
  path? c := c.daemon.diagnosticLog
  content_key _ := Option.map_map ..

def soundFile : OwnFile where
  key := .under "delivery" (·.delivery) <| .under "sound" (·.sound) <| .text "file" (·.file.text)
  path? c := some c.delivery.sound.file
  content_key _ := rfl

def ownFiles : List OwnFile := [eventLog, pidFile, diagnosticLog, soundFile]

/--
The settings `d` are `c` with the paths of the relay's files as they are seen from `base`. These
lead to the same files wherever the relay goes.
-/
structure Anchored (base : Path) (c d : Config) : Prop where
  absolute : ∀ f ∈ ownFiles, ∀ p ∈ f.path? d, p.isAbsolute
  steady : ∀ f ∈ ownFiles, ∀ p ∈ f.path? d, ∀ (fs : FileSystem) (directory : Path),
    (fs.enter directory).find p = fs.find p ∧
      (fs.enter directory).openForWriting p = fs.openForWriting p
  seen : ∀ f ∈ ownFiles,
    f.path? d = (f.path? c).map fun p => if p.isRelative then base.join p else p
  others : ∀ k ∈ keys, k.path ∉ ownFiles.map (·.key.path) → k.content d = k.content c
  final : ∀ other, d.resolvePaths other = d

section

variable {base : Path} (c : Config)

theorem path?_resolvePaths : ∀ f ∈ ownFiles, f ≠ soundFile →
    f.path? (c.resolvePaths base) = (f.path? c).map base.join := by
  simp only [ownFiles, List.forall_mem_cons]
  exact ⟨fun _ => rfl, fun _ => rfl, fun _ => rfl, fun h => absurd rfl h, List.forall_mem_nil _⟩

theorem content_resolvePaths (base : Path) : ∀ k ∈ keys, k.path ∉ ownFiles.map (·.key.path) →
    k.content (c.resolvePaths base) = k.content c := by
  simp only [keys, List.forall_mem_append, List.forall_mem_map]
  refine ⟨⟨⟨⟨fun _ _ _ => rfl, ?_⟩, fun _ _ _ => rfl⟩, ?_⟩, fun _ _ _ => rfl⟩
  · simp [logKeys, ownFiles, eventLog, Key.path, resolvePaths]
  · simp [daemonKeys, ownFiles, pidFile, diagnosticLog, Key.path, resolvePaths]

theorem resolvePaths_resolvePaths (absolute : base.isAbsolute) (other : Path) :
    (c.resolvePaths base).resolvePaths other = c.resolvePaths base := by
  have seen (p : Path) : other.join (base.join p) = base.join p :=
    Path.join_of_isAbsolute (Path.isAbsolute_join absolute p) other
  have optional : (c.daemon.diagnosticLog.map base.join).map other.join =
      c.daemon.diagnosticLog.map base.join := by
    rw [Option.map_map]
    exact Option.map_congr fun p _ => seen p
  simp only [resolvePaths, seen, optional]

/--
The paths of the relay's files are anchored once and for all, and nothing else is changed, if and
only if the sound file is given by an absolute path.
-/
theorem anchored_iff (absolute : base.isAbsolute) :
    Anchored base c (c.resolvePaths base) ↔ c.delivery.sound.file.isAbsolute := by
  constructor
  · exact fun h => h.absolute soundFile (by simp [ownFiles]) _ rfl
  · intro sound
    have joined : ∀ f ∈ ownFiles, f.path? (c.resolvePaths base) = (f.path? c).map base.join := by
      intro f hf
      by_cases h : f = soundFile
      · subst h
        exact congrArg some (Path.join_of_isAbsolute sound base).symm
      · exact path?_resolvePaths c f hf h
    have isAbsolute : ∀ f ∈ ownFiles, ∀ p ∈ f.path? (c.resolvePaths base), p.isAbsolute := by
      intro f hf p hp
      rw [joined f hf] at hp
      obtain ⟨q, -, rfl⟩ := Option.map_eq_some_iff.mp hp
      exact Path.isAbsolute_join absolute q
    refine ⟨isAbsolute, ?_, ?_, content_resolvePaths c base, resolvePaths_resolvePaths c absolute⟩
    · intro f hf p hp fs directory
      exact ⟨fs.find_enter directory (isAbsolute f hf p hp),
        fs.openForWriting_enter directory (isAbsolute f hf p hp)⟩
    · intro f hf
      simp only [Path.join_eq, joined f hf]

end

theorem anchored_iff_of_relative_logs :
    let base : Path := ⟨"/srv/relay"⟩
    let c : Config := { log.path := ⟨"events.log"⟩, daemon.diagnosticLog := some ⟨"log/relay"⟩ }
    Anchored base c (c.resolvePaths base) ∧
      (c.resolvePaths base).log.path = ⟨"/srv/relay/events.log"⟩ ∧
      (c.resolvePaths base).daemon.diagnosticLog = some ⟨"/srv/relay/log/relay"⟩ :=
  ⟨(anchored_iff _ (by decide)).mpr (by decide), by decide +kernel, by decide +kernel⟩

/-- A sound file next to which the relay is started, and which it no longer finds from the root. -/
theorem lost_sound_file :
    let base : Path := ⟨"/srv"⟩
    let c : Config := { delivery.sound.file := ⟨"ping.aiff"⟩ }
    let fs : FileSystem :=
      { FileSystem.empty.put (.ofNames ["srv", "ping.aiff"]) (.file []) with
        workingDirectory := .ofNames ["srv"] }
    let file := (c.resolvePaths base).delivery.sound.file
    fs.directory = base ∧ base.isAbsolute ∧ file = ⟨"ping.aiff"⟩ ∧
      fs.exists? file = true ∧ (fs.enter ⟨"/"⟩).exists? file = false ∧
      ¬ Anchored base c (c.resolvePaths base) := by
  intro base c fs file
  have unchanged : file = ⟨"ping.aiff"⟩ := rfl
  have entered : fs.enter ⟨"/"⟩ = { fs with workingDirectory := .root } := by
    rw [FileSystem.enter, fs.find_slash]
  have plain := FileSystem.isName_of_plain "ping.aiff" (by decide)
  refine ⟨by decide +kernel, by decide, unchanged, ?_, ?_, ?_⟩
  · rw [FileSystem.exists?, unchanged, plain.find (by rfl)]
    rfl
  · rw [entered]
    exact plain.exists? (by rfl)
  · intro anchored
    have := anchored.absolute soundFile (by simp [ownFiles]) _ rfl
    revert this
    decide

end Config

end EventRelay
