import EventRelay.Cli.Service

namespace EventRelay.Cli

namespace World

def showConfig (w : World) (c : Config) : Report :=
  match c.render? with
  | some text => { machine := w.machine, output := [text] }
  | none => w.fail (.other "out-of-range value for u64 type" [])

def init (w : World) (path : Path) (force : Bool) : Report :=
  if w.machine.files.exists? path ∧ ¬ force then
    { machine := w.machine
      output := [s!"Configuration already initialized at: {path.text}",
        "Use --force to overwrite"] }
  else
    match Config.save {} w.machine.files path with
    | (files, .ok ()) =>
      { machine := { w.machine with files }
        output := [s!"Configuration initialized successfully at: {path.text}"] }
    | (files, .error e) =>
      (w.withFiles files).fail (.other "Failed to write configuration" (e.message :: e.causes))

def answered (r : Receipt) : List String × Outcome Unit :=
  match r.acknowledgement with
  | none => ([s!"Sent to {r.address} (no acknowledgement)"], .ok ())
  | some ack =>
    ([ack.toValue.text],
      if ack.isSuccess then .ok ()
      else .error (.other s!"Relay at {r.address} reported an error: {ack.message}" []))

def send (w : World) (c : Config) (r : SendRequest) : Report :=
  match r.event.validate with
  | .error e => w.fail e
  | .ok () =>
    match (r.client c.client).send w.network r.event w.now with
    | (traffic, .error e) => { w.fail e with traffic }
    | (traffic, .ok receipt) =>
      let (output, result) := answered receipt
      { machine := w.machine, output, traffic, result }

def act (w : World) (s : Settings) : Action → Report
  | .start detach => w.start s.config detach
  | .stop => w.withDiagnostics s.config false (·.stop s.config)
  | .status => w.status s.config
  | .send r => w.withDiagnostics s.config false (·.send s.config r)
  | .showConfig => w.withDiagnostics s.config false (·.showConfig s.config)
  | .init force => w.withDiagnostics s.config false (·.init s.path force)

def execute (w : World) (i : Invocation) : Report :=
  match w.settings i.config with
  | .ok s => w.act s i.action
  | .error e => w.fail e

def run (w : World) (args : List String) : Except Usage Report :=
  (Invocation.parse args w.environment).map w.execute

end World

end EventRelay.Cli
