import EventRelay.Cli.Execution
import EventRelay.Proofs.Config.Environment
import EventRelay.Proofs.Config.Saved
import EventRelay.Proofs.Files.Parent
import EventRelay.Proofs.Files.Places

namespace EventRelay

/-- None of the variables is set that belong to relays and their clients. -/
def Environment.IsBare (env : Environment) : Prop :=
  ∀ name : String, "NF_".toList <+: name.toList ∨ "NOTIFICATION_SERVER_".toList <+: name.toList →
    env name = none

namespace Config

variable {fs : FileSystem} {path : Path} {l : Location} {content : Bytes} {c : Config}

theorem withEnvironment_of_isBare {env : Environment} (bare : env.IsBare) (c : Config) :
    c.withEnvironment env = .ok c := by
  have prefixed : ∀ v ∈ knownVariables, "NF_".toList <+: v.name.toList ∨
      "NOTIFICATION_SERVER_".toList <+: v.name.toList := by decide +kernel
  have unset : override env overrides c = (c, none) :=
    override_of_unset follows_overrides fun v hv => bare v.name (prefixed v hv)
  rw [withEnvironment, applyEnvironment, unset]

theorem load_eq_ok_iff (found : fs.find path = .ok (l, .file content)) :
    load fs path = .ok c ↔ ∃ text, content = .ofString text ∧ parse? text = some c := by
  have there : fs.exists? path = true := by
    rw [FileSystem.exists?, found]
    rfl
  have read := FileSystem.readText_of_read (FileSystem.read_of_find found)
  rw [load, if_neg (by simp [there]), read]
  constructor
  · intro loaded
    cases text : content.toString? with
    | none =>
      rw [text] at loaded
      cases loaded
    | some text' =>
      rw [text] at loaded
      cases parsed : parse? text' with
      | none => simp [parsed] at loaded
      | some c' =>
        simp only [Option.elim, parsed, Except.ok.injEq] at loaded
        exact ⟨text', (Bytes.ofString_of_toString? text).symm, loaded ▸ parsed⟩
  · rintro ⟨text, rfl, parsed⟩
    simp only [Bytes.toString?_ofString, Option.elim, parsed]

end Config

namespace FileSystem

variable {fs fs' : FileSystem} {path : Path} {l m : Location} {content : Bytes}

theorem Grows.keeps_file (h : Grows fs fs') (there : fs.at? l = some (.file content)) :
    fs'.at? l = some (.file content) := by
  rcases h.at? l with same | ⟨none, -⟩
  · rw [same, there]
  · rw [there] at none
    cases none

theorem Grows.hides (h : Grows fs fs') (hides : fs'.Hides path) : fs.Hides path := by
  obtain ⟨missing, content, there⟩ := hides
  have adds : Adds (fs.place path) fs fs' := h.adds _
  have root : fs'.place path ≠ .root := ne_root_of_node? (by rw [there]; simp)
  rw [node?_of_ne_root root, adds.place] at there
  refine ⟨?_, content, ?_⟩
  · cases found : fs.find path with
    | ok leads =>
      obtain ⟨l, ⟨old⟩ | _⟩ := leads
      · rw [h.find_file found] at missing
        cases missing
      · rw [h.keepsDirectories.find_directory found] at missing
        cases missing
    | error e =>
      by_cases absent : e = .notFound
      · rw [absent]
      · rw [adds.find_error absent found] at missing
        cases missing
        exact absurd rfl absent
  · rw [node?_of_ne_root (adds.place path ▸ root)]
    exact h.at?_of_file there

theorem Grows.exists_of_find_file (h : Grows fs fs') (bare : ¬ fs.Hides path)
    (found : fs'.find path = .ok (l, .file content)) : fs.exists? path = true := by
  by_contra missing
  -- no file was added anywhere, and so not in the place below the one found either
  have adds : Adds (l.child "") fs fs' := h.adds _
  obtain ⟨same, -⟩ := adds.of_find_file (Bool.eq_false_iff.mpr missing) bare found
  have deeper := congrArg Location.depth same
  exact Nat.succ_ne_self l.depth deeper.symm

end FileSystem

namespace Config

variable {fs : FileSystem} {path : Path} {l : Location}

theorem save_keeps (c : Config) (missing : fs.exists? path = false) (bare : ¬ fs.Hides path)
    {content : Bytes} (there : fs.at? l = some (.file content)) :
    (c.save fs path).1.at? l = some (.file content) := by
  have grown := fs.grows_makeParent path "create config directory"
  unfold save
  rcases parent : fs.makeParent path "create config directory" with ⟨made, e | ⟨⟩⟩ <;>
    rw [parent] at grown
  · exact grown.keeps_file there
  · have kept := grown.keeps_file there
    cases c.render? with
    | none => exact kept
    | some text =>
      rcases opens : made.openForWriting path with e | ⟨m, old⟩
      · simp only [FileSystem.write, opens]
        exact kept
      · simp only [FileSystem.write, opens]
        change (made.put m _).at? l = _
        by_cases here : l = m
        · -- a file in the place that is written to would have been there before
          subst here
          obtain ⟨_, _, _, _, node, _⟩ := FileSystem.openForWriting_eq_ok_iff.mp opens
          have root := FileSystem.ne_root_of_node?
            (FileSystem.not_directory_of_openForWriting opens)
          rw [FileSystem.node?_of_ne_root root, kept] at node
          cases old with
          | none => cases node
          | some old =>
            have found := FileSystem.find_of_openForWriting opens
            rw [grown.exists_of_find_file bare found] at missing
            cases missing
        · rw [← kept]
          exact if_neg here

end Config

namespace Cli.World

open FileSystem (Grows)

variable {w : World} {path : Path} {l : Location} {content : Bytes}

theorem init_writes {force : Bool}
    (replaces : w.machine.files.exists? path = false ∨ force = true)
    (writable : Config.Writable w.machine.files path) :
    (w.init path force).result = .ok () ∧
      Config.load (w.init path force).machine.files path = .ok {} := by
  have described : Config.render? {} ≠ none := Option.isSome_iff_ne_none.mp (by decide +kernel)
  obtain ⟨files, saved⟩ := Config.exists_save_iff.mpr ⟨writable, described⟩
  have loaded : Config.load files path = .ok {} := by
    obtain ⟨_, text, -, rendered, written⟩ := Config.save_eq_ok_iff.mp saved
    obtain ⟨l, there⟩ := FileSystem.find_of_read (FileSystem.read_of_write written)
    exact (Config.load_eq_ok_iff there).mpr
      ⟨text, rfl, Config.parse?_of_render? (by decide) (by decide) rendered⟩
  have goes : ¬ (w.machine.files.exists? path = true ∧ ¬ force = true) := by
    rcases replaces with missing | forced <;> simp_all
  rw [init, if_neg goes, saved]
  exact ⟨rfl, loaded⟩

theorem init_unforced (bare : ¬ w.machine.files.Hides path)
    (there : w.machine.files.at? l = some (.file content)) :
    (w.init path false).machine.files.at? l = some (.file content) := by
  unfold init
  split
  · exact there
  · next absent =>
    have missing : w.machine.files.exists? path = false := by simpa using absent
    have kept := Config.save_keeps {} missing bare there
    rcases saved : Config.save {} w.machine.files path with ⟨files, e | ⟨⟩⟩ <;>
      rw [saved] at kept <;> exact kept

/-- The directory for the diagnostics is there or can be made, if the settings ask for one. -/
def CanDiagnose (w : World) (c : Config) : Prop :=
  ∀ log, c.diagnosticLogPath false = some log →
    (w.machine.files.makeDirectories (diagnosticDirectory log)).2 = .ok ()

theorem withDiagnostics_cases (w : World) (c : Config) (command : World → Report) :
    ∃ files, Grows w.machine.files files ∧
      (w.CanDiagnose c ∧ w.withDiagnostics c false command = command (w.withFiles files) ∨
        ¬ w.CanDiagnose c ∧
          ∃ f, w.withDiagnostics c false command = (w.withFiles files).fail f) := by
  unfold withDiagnostics CanDiagnose
  cases c.diagnosticLogPath false with
  | none =>
    refine ⟨w.machine.files, .refl _, .inl ⟨fun log named => ?_, rfl⟩⟩
    cases named
  | some log =>
    have grown := w.machine.files.grows_makeDirectories (diagnosticDirectory log)
    rcases made : w.machine.files.makeDirectories (diagnosticDirectory log)
      with ⟨files, e | ⟨⟩⟩ <;> rw [made] at grown <;> refine ⟨files, grown, ?_⟩
    · refine .inr ⟨fun all => ?_, _, by simp only [made]; rfl⟩
      have done := all log rfl
      rw [made] at done
      cases done
    · refine .inl ⟨fun other named => ?_, by simp only [made]⟩
      cases named
      rw [made]

theorem settings_of_isBare (bare : w.environment.IsBare) {given : Option String}
    (here : w.configPath given = .ok path) :
    w.settings given = (Config.load w.machine.files path).map fun c =>
      ⟨path, c.resolvePaths w.machine.files.directory⟩ := by
  rw [settings, here]
  cases loaded : Config.load w.machine.files path with
  | error e => simp [loaded, Except.map, bind, Except.bind]
  | ok c =>
    simp [loaded, Config.withEnvironment_of_isBare bare, Except.map, bind, Except.bind, pure,
      Except.pure]

theorem path_of_settings {given : Option String} {s : Settings} (set : w.settings given = .ok s) :
    w.configPath given = .ok s.path := by
  rw [settings] at set
  cases named : w.configPath given with
  | error e =>
    rw [named] at set
    cases set
  | ok path =>
    rw [named] at set
    cases loaded : Config.load w.machine.files path with
    | error e => simp [loaded, bind, Except.bind] at set
    | ok c =>
      cases added : c.withEnvironment w.environment with
      | error e => simp [loaded, added, bind, Except.bind] at set
      | ok c' =>
        simp only [loaded, added, bind, Except.bind, pure, Except.pure, Except.ok.injEq] at set
        rw [← set]

theorem execute_init {i : Invocation} {force : Bool} (action : i.action = .init force)
    {s : Settings} (set : w.settings i.config = .ok s) :
    w.execute i = w.withDiagnostics s.config false (·.init s.path force) := by
  rw [execute, set]
  simp only [act, action]

theorem execute_forced (bare : w.environment.IsBare) (tree : w.machine.files.IsTree)
    {i : Invocation} (action : i.action = .init true) (here : w.configPath i.config = .ok path)
    (found : w.machine.files.find path = .ok (l, .file content)) :
    let report := w.execute i
    (∃ c, Config.load w.machine.files path = .ok c ∧
        w.CanDiagnose (c.resolvePaths w.machine.files.directory) ∧
        report.result = .ok () ∧ Config.load report.machine.files path = .ok {}) ∨
      (∀ c, Config.load w.machine.files path = .ok c →
        ¬ w.CanDiagnose (c.resolvePaths w.machine.files.directory)) ∧
        report.result ≠ .ok () ∧ report.machine.files.find path = .ok (l, .file content) := by
  intro report
  have parent := FileSystem.hasParent_of_find tree found
  have set := settings_of_isBare bare here
  cases loaded : Config.load w.machine.files path with
  | error e =>
    rw [loaded] at set
    have failed : report = w.fail e := by
      change w.execute i = _
      rw [execute, set]
      rfl
    refine .inr ⟨fun c there => (by cases there), ?_⟩
    rw [failed]
    exact ⟨by simp [fail], found⟩
  | ok c =>
    rw [loaded] at set
    have acted : report = w.withDiagnostics (c.resolvePaths w.machine.files.directory) false
        (·.init path true) := execute_init action set
    obtain ⟨files, grown, ⟨able, ran⟩ | ⟨unable, f, ran⟩⟩ := w.withDiagnostics_cases
      (c.resolvePaths w.machine.files.directory) (·.init path true)
    · have writable : Config.Writable files path :=
        ⟨_, _, FileSystem.makeParent_of_hasParent (grown.keepsDirectories.hasParent parent) _,
          FileSystem.openForWriting_of_find (grown.find_file found)⟩
      refine .inl ⟨c, rfl, able, ?_⟩
      rw [acted, ran]
      exact init_writes (w := w.withFiles files) (.inr rfl) writable
    · refine .inr ⟨fun c' same => ?_, ?_⟩
      · cases same
        exact unable
      · rw [acted, ran]
        exact ⟨by simp [fail], grown.find_file found⟩

/--
Forced to, the command that writes the default settings succeeds on a file exactly if this is a text
that describes settings whose diagnostics have a directory, and then the file holds the defaults;
otherwise the file is as it was. Not forced to, the command changes no file at all, unless the path
of the settings leads nowhere because a directory on the way to the file is missing.
-/
theorem init_outcome (w : World) (i : Invocation) (tree : w.machine.files.IsTree)
    (here : w.configPath i.config = .ok path) :
    (i.action = .init true → w.environment.IsBare → ∀ l content,
      w.machine.files.find path = .ok (l, .file content) →
        let report := w.execute i
        (report.result = .ok () ↔ ∃ text c, content = .ofString text ∧
          Config.parse? text = some c ∧
          w.CanDiagnose (c.resolvePaths w.machine.files.directory)) ∧
        (report.result = .ok () → Config.load report.machine.files path = .ok {}) ∧
        (report.result ≠ .ok () → report.machine.files.find path = .ok (l, .file content))) ∧
    (i.action = .init false → ¬ w.machine.files.Hides path → ∀ l content,
      w.machine.files.at? l = some (.file content) →
        (w.execute i).machine.files.at? l = some (.file content)) := by
  refine ⟨fun forced bare l content found => ?_, fun unforced visible l content there => ?_⟩
  · rcases execute_forced bare tree forced here found with
      ⟨c, loaded, able, done, restored⟩ | ⟨unable, failed, kept⟩
    · obtain ⟨text, written, parsed⟩ := (Config.load_eq_ok_iff found).mp loaded
      exact ⟨iff_of_true done ⟨text, c, written, parsed, able⟩, fun _ => restored,
        fun failed => absurd done failed⟩
    · refine ⟨iff_of_false failed ?_, fun done => absurd done failed, fun _ => kept⟩
      rintro ⟨text, c, written, parsed, able⟩
      exact unable c ((Config.load_eq_ok_iff found).mpr ⟨text, written, parsed⟩) able
  · cases set : w.settings i.config with
    | error e =>
      have failed : w.execute i = w.fail e := by rw [execute, set]
      rw [failed]
      exact there
    | ok s =>
      have same : s.path = path := Except.ok.inj ((path_of_settings set).symm.trans here)
      rw [execute_init unforced set, same]
      obtain ⟨files, grown, ⟨-, ran⟩ | ⟨-, f, ran⟩⟩ :=
        w.withDiagnostics_cases s.config (·.init path false)
      · rw [ran]
        exact init_unforced (w := w.withFiles files) (fun hides => visible (grown.hides hides))
          (grown.keeps_file there)
      · rw [ran]
        exact grown.keeps_file there

def resting (files : FileSystem) : World :=
  { machine := { files }
    processes := { self := 1, present := fun _ => false }
    environment := fun _ => none
    around :=
      { host := "host"
        mailServer := fun _ _ _ _ => .error "out of reach"
        commands := fun _ _ _ => .notStarted "out of reach"
        webServers := fun _ _ _ => .failed ["out of reach"] }
    network := Network.steady fun _ => .pending
    now := 0
    terminate := fun m _ => (m, .error "out of reach")
    detach := fun _ => .error "out of reach"
    happenings := [] }

def forcing : Invocation := { config := some "conf", verbose := false, action := .init true }

example : Invocation.parse ["--config", "conf", "init", "--force"] = .ok forcing := by
  decide +kernel

def holding (content : String) : World :=
  resting (FileSystem.empty.put (.child .root "conf") (.file (.ofString content)))

theorem isTree_holding (content : String) : (holding content).machine.files.IsTree := by
  have opens : FileSystem.empty.openForWriting ⟨"conf"⟩ = .ok (.child .root "conf", none) :=
    (FileSystem.isName_of_plain "conf" (by decide)).openForWriting rfl
  exact FileSystem.isTree_empty.put_of_openForWriting opens _

theorem find_holding (content : String) : (holding content).machine.files.find ⟨"conf"⟩ =
    .ok (.child .root "conf", .file (.ofString content)) :=
  (FileSystem.isName_of_plain "conf" (by decide)).find rfl

theorem init_outcome_of_partial :
    let w := holding "[server]\nport = 9555\n"
    let unforced : Invocation := { forcing with action := .init false }
    w.configPath forcing.config = .ok ⟨"conf"⟩ ∧ w.machine.files.IsTree ∧
      (w.execute forcing).result = .ok () ∧
      Config.load (w.execute forcing).machine.files ⟨"conf"⟩ = .ok {} ∧
      (w.execute unforced).machine.files.at? (.child .root "conf") =
        some (.file (.ofString "[server]\nport = 9555\n")) := by
  intro w unforced
  have here : w.configPath forcing.config = .ok ⟨"conf"⟩ := rfl
  have tree : w.machine.files.IsTree := isTree_holding _
  obtain ⟨replaces, -⟩ := init_outcome w forcing tree here
  obtain ⟨succeeds, restored, -⟩ := replaces rfl (fun _ _ => rfl) _ _ (find_holding _)
  have parsed : Config.parse? "[server]\nport = 9555\n" = some { server := { port := 9555 } } := by
    decide +kernel
  have done := succeeds.mpr ⟨_, _, rfl, parsed, fun log named => by cases named⟩
  have visible : ¬ w.machine.files.Hides ⟨"conf"⟩ := by
    refine tree.not_hides ?_
    rw [(FileSystem.isName_of_plain "conf" (by decide)).names]
    decide
  obtain ⟨-, keeps⟩ := init_outcome w unforced tree here
  exact ⟨here, tree, done, restored done, keeps rfl visible _ _ rfl⟩

/-- A file that nothing can be read from, which is what one would have replaced by force. -/
theorem malformed_file_kept :
    let w := holding "[server\nport = "
    w.environment.IsBare ∧ w.configPath forcing.config = .ok ⟨"conf"⟩ ∧
      (w.execute forcing).result ≠ .ok () ∧
      (w.execute forcing).machine.files.find ⟨"conf"⟩ =
        .ok (.child .root "conf", .file (.ofString "[server\nport = ")) := by
  intro w
  have bare : w.environment.IsBare := fun _ _ => rfl
  have action : forcing.action = .init true := rfl
  have here : w.configPath forcing.config = .ok ⟨"conf"⟩ := rfl
  have found := find_holding "[server\nport = "
  have malformed : Config.parse? "[server\nport = " = none := by decide +kernel
  rcases execute_forced bare (isTree_holding _) action here found with
    ⟨c, loaded, -⟩ | ⟨-, failed, kept⟩
  · obtain ⟨text, written, parsed⟩ := (Config.load_eq_ok_iff found).mp loaded
    have same := congrArg Bytes.toString? written
    rw [Bytes.toString?_ofString, Bytes.toString?_ofString] at same
    cases same
    rw [malformed] at parsed
    cases parsed
  · exact ⟨bare, here, failed, kept⟩

def detouring : Invocation :=
  { config := some "x/../conf", verbose := false, action := .init false }

theorem names_detouring : (⟨"x/../conf"⟩ : Path).names = ["x", "..", "conf"] := by
  simp +decide [Path.names, Path.pieces, String.splitOn, String.splitOnAux]

theorem target_detouring (fs : FileSystem) : fs.target ⟨"x/../conf"⟩ =
    (fs.descend fs.workingDirectory ["x", ".."]).map fun l => ⟨l, some "conf", false⟩ :=
  FileSystem.target_of_names fs _ (by decide +kernel) names_detouring (by decide)
    (by decide +kernel)

theorem makeParent_detouring (content : String) :
    (holding content).machine.files.makeParent ⟨"x/../conf"⟩ "create config directory" =
      ((holding content).machine.files.put (.child .root "x") .directory, .ok ()) := by
  have parent : (⟨"x/../conf"⟩ : Path).parent? = some ⟨"x/.."⟩ := by
    simp +decide [Path.parent?, Path.pieces, String.splitOn, String.splitOnAux, Path.trimPieces]
  have names : (⟨"x/.."⟩ : Path).names = ["x", ".."] := by
    simp +decide [Path.names, Path.pieces, String.splitOn, String.splitOnAux]
  have fault : FileSystem.textFault? ⟨"x/.."⟩ = none := by decide +kernel
  have missing : (holding content).machine.files.makeDirectory ⟨"x/.."⟩ = .error .notFound := by
    rw [FileSystem.makeDirectory_eq, FileSystem.target_eq, fault, FileSystem.lastStep, names]
    rfl
  rw [FileSystem.makeParent, parent]
  simp only [FileSystem.makeDirectories, missing, names]
  rfl

theorem hidden_file_replaced :
    let w := holding "kept"
    w.machine.files.Hides ⟨"x/../conf"⟩ ∧ (w.execute detouring).result = .ok () ∧
      Config.load (w.execute detouring).machine.files ⟨"x/../conf"⟩ = .ok {} := by
  intro w
  have missing : w.machine.files.find ⟨"x/../conf"⟩ = .error .notFound := by
    rw [FileSystem.find_eq, target_detouring]
    rfl
  have hides : w.machine.files.Hides ⟨"x/../conf"⟩ := by
    refine ⟨missing, .ofString "kept", ?_⟩
    rw [FileSystem.place, names_detouring]
    rfl
  have absent : w.machine.files.exists? ⟨"x/../conf"⟩ = false := by
    rw [FileSystem.exists?, missing]
    rfl
  have writable : Config.Writable w.machine.files ⟨"x/../conf"⟩ := by
    refine ⟨_, (.child .root "conf", some (.ofString "kept")), makeParent_detouring _, ?_⟩
    exact FileSystem.openForWriting_eq_ok_iff.mpr ⟨⟨.root, some "conf", false⟩,
      target_detouring _, by decide +kernel, rfl, rfl, rfl⟩
  have acted : w.execute detouring = w.init ⟨"x/../conf"⟩ false := by
    have bare : w.environment.IsBare := fun _ _ => rfl
    have here : w.configPath detouring.config = .ok ⟨"x/../conf"⟩ := rfl
    have loaded : Config.load w.machine.files ⟨"x/../conf"⟩ = .ok {} := by
      rw [Config.load, if_pos (by simp [absent])]
    rw [execute, settings_of_isBare bare here, loaded]
    rfl
  rw [acted]
  exact ⟨hides, init_writes (.inl absent) writable⟩

end Cli.World

end EventRelay
