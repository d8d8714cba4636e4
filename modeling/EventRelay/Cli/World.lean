import EventRelay.Cli.Invocation
import EventRelay.Config.Storage
import EventRelay.Relay.Mode
import EventRelay.Relay.Server

namespace EventRelay.Cli

structure World where
  machine : Machine
  processes : Processes
  environment : Environment
  around : Surroundings
  network : Network.Course
  now : Int
  /-- What the machine is like after a process was asked to end, and whether it ended in time; or
  why it could not be asked. -/
  terminate : Machine → Int → Machine × Except String Bool
  detach : Path → Except String Nat
  /-- What happens around a relay that is started. -/
  happenings : List Relay.Happening

structure Report where
  machine : Machine
  output : List String := []
  signals : List Int := []
  traffic : Traffic := {}
  result : Outcome Unit := .ok ()

def Report.exitCode (r : Report) : Nat :=
  match r.result with
  | .ok () => 0
  | .error _ => 1

def indent (first other text : String) : String :=
  first ++ s!"\n{other}".intercalate (text.splitOn "\n")

def printedCauses : Causes → String
  | [] => ""
  | [cause] => "\n\nCaused by:\n" ++ indent "    " "    " cause
  | causes =>
    let number (n : Nat) : String := "".pushn ' ' (5 - (toString n).length) ++ s!"{n}: "
    "\n\nCaused by:\n" ++
      "\n".intercalate (causes.mapIdx fun n cause => indent (number n) "       " cause)

def printed (f : Failure) : String := s!"Error: {f.message}" ++ printedCauses f.causes

structure Settings where
  path : Path
  config : Config
  deriving DecidableEq, Repr

namespace World

def configPath (w : World) (given : Option String) : Outcome Path :=
  match given, (w.environment "HOME").filter (!·.isEmpty) with
  | some path, _ => .ok ⟨path⟩
  | none, some home => .ok (Config.defaultPath ⟨home⟩)
  | none, none => .error (.config "Failed to get base directories" [])

def settings (w : World) (given : Option String) : Outcome Settings := do
  let path ← w.configPath given
  let config ← (← Config.load w.machine.files path).withEnvironment w.environment
  return ⟨path, config.resolvePaths w.machine.files.directory⟩

def fail (w : World) (f : Failure) : Report := { machine := w.machine, result := .error f }

def withFiles (w : World) (files : FileSystem) : World :=
  { w with machine := { w.machine with files } }

def diagnosticDirectory (log : Path) : Path :=
  match log.parent? with
  | some directory => if directory.text.isEmpty then ⟨"."⟩ else directory
  | none => ⟨"."⟩

def withDiagnostics (w : World) (c : Config) (background : Bool) (command : World → Report) :
    Report :=
  match c.diagnosticLogPath background with
  | none => command w
  | some log =>
    match w.machine.files.makeDirectories (diagnosticDirectory log) with
    | (files, .ok ()) => command (w.withFiles files)
    | (files, .error e) =>
      (w.withFiles files).fail (.other "Failed to create log directory" [e.message])

end World

end EventRelay.Cli
