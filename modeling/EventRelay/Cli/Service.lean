import EventRelay.Cli.World

namespace EventRelay.Cli.World

def withRunning (w : World) (c : Config) (command : World → Option Nat → Report) : Report :=
  match PidFile.runningPid w.machine.files w.processes c.daemon.pidFile with
  | (files, .ok running) => command (w.withFiles files) running
  | (files, .error e) => (w.withFiles files).fail e

def notRunning : String := "Relay daemon is not running"

def status (w : World) (c : Config) : Report :=
  w.withRunning c fun w running =>
    let output := match running with
      | none => [notRunning]
      | some pid =>
        [s!"Relay daemon is running (PID: {pid})",
          s!"  Host: {w.around.host}",
          s!"  Listen address: {c.server.listenAddress}",
          s!"  Event log: {c.log.path.text}",
          s!"  PID file: {c.daemon.pidFile.text}"]
    { machine := w.machine, output }

/-- The number by which the operating system is told of a process: 32 bits with a sign. Zero and
negative numbers stand for many processes at once. -/
def signalTarget (pid : Nat) : Int := Int.bmod pid 4294967296

def stopSeconds : Nat := 5

def stop (w : World) (c : Config) : Report :=
  w.withRunning c fun w running =>
    match running with
    | none => { machine := w.machine, output := [notRunning] }
    | some pid =>
      let target := signalTarget pid
      let (machine, ended) := w.terminate w.machine target
      let r : Report := { machine, signals := [target] }
      match ended with
      | .ok true => { r with output := ["Relay daemon stopped"] }
      | .ok false =>
        let late := s!"Relay daemon (PID: {pid}) did not stop within {stopSeconds} seconds"
        { r with result := .error (.other late []) }
      | .error cause =>
        let heading := s!"Failed to signal relay daemon (PID: {pid})"
        { r with result := .error (.other heading [cause]) }

def announcement (c : Config) : List String :=
  s!"Starting relay in background (PID file: {c.daemon.pidFile.text})" ::
    ((c.diagnosticLogPath true).map fun log =>
      s!"Diagnostics are written to {log.text}").toList

def serve (w : World) (c : Config) : Report :=
  match Relay.startConfigured c w.around w.processes w.machine with
  | (machine, .error e) => { machine, result := .error e }
  | (machine, .ok service) =>
    let server := Relay.Server.run { service, machine } w.happenings
    { machine := server.machine, result := server.result?.getD (.ok ()) }

def entered (w : World) (self : Nat) (mode : Relay.ServiceMode) : World :=
  let w := { w with processes := { w.processes with self } }
  match mode with
  | .foreground => w
  | .background directory => w.withFiles (w.machine.files.enter directory)

/-- Starts a relay. In the background the command succeeds whatever becomes of the relay. -/
def start (w : World) (c : Config) (detach : Bool) : Report :=
  w.withRunning c fun w running =>
    match running with
    | some pid => w.fail (.alreadyRunning pid)
    | none =>
      let mode := Relay.ServiceMode.ofConfig c.daemon detach
      let output := if mode.isBackground then announcement c else []
      match mode.enter w.processes.self w.detach with
      | .error e => { w.fail e with output }
      | .ok self =>
        let r := (w.entered self mode).withDiagnostics c mode.isBackground (·.serve c)
        let workingDirectory := w.machine.files.workingDirectory
        { machine := { r.machine with files := { r.machine.files with workingDirectory } }
          output
          result := if mode.isBackground then .ok () else r.result }

end EventRelay.Cli.World
