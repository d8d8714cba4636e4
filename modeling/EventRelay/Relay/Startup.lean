import EventRelay.Connection.Handler
import EventRelay.PidFile
import EventRelay.Sink.Selected

/-!
Starting a relay: the check for a running one, the log, the listening address and the PID file, in
this order. Each step is one that other processes can see, so that several relays can be started
at the same time.
-/

namespace EventRelay

structure Listener where
  address : String
  pid : Nat
  deriving DecidableEq, Repr

structure Machine where
  files : FileSystem
  listeners : List Listener := []
  unusable : String → Option String := fun _ => none
  /-- Why a socket that is bound to an address cannot tell it. -/
  nameless : String → Option String := fun _ => none

namespace Machine

def bind (m : Machine) (l : Listener) : Except String Machine :=
  match m.unusable l.address with
  | some cause => .error cause
  | none =>
    if m.listeners.any (·.address == l.address) then .error SystemError.addressInUse.message
    else .ok { m with listeners := l :: m.listeners }

/-- A socket that cannot tell its address is closed again. -/
def listen (m : Machine) (l : Listener) : Outcome Machine :=
  match m.bind l with
  | .error cause => .error (.transport l.address "bind" [cause])
  | .ok bound =>
    match m.nameless l.address with
    | some cause => .error (.transport l.address "query local address" [cause])
    | none => .ok bound

def close (m : Machine) (l : Listener) : Machine :=
  { m with listeners := m.listeners.filter (· != l) }

end Machine

namespace Relay

structure Service where
  listener : Listener
  pidFile : PidFile
  handler : Handler
  concurrent : Bool

inductive Startup
  | checking (l : PidFile.Lookup)
  | opening
  | binding (log : EventLog)
  | claiming (log : EventLog) (claim : PidFile.Claim)
  | up (s : Service)
  | failed (f : Failure)

def Startup.step (c : Config) (sink : Sink) (ps : Processes) (m : Machine) :
    Startup → Machine × Startup
  | .checking (.found (.error e)) => (m, .failed e)
  | .checking (.found (.ok (some pid))) => (m, .failed (.alreadyRunning pid))
  | .checking (.found (.ok none)) => (m, .opening)
  | .checking l =>
    let (files, l) := l.step ps c.daemon.pidFile m.files
    ({ m with files }, .checking l)
  | .opening =>
    match EventLog.create c.log m.files with
    | (files, .error e) => ({ m with files }, .failed e)
    | (files, .ok log) => ({ m with files }, .binding log)
  | .binding log =>
    match m.listen ⟨c.server.listenAddress, ps.self⟩ with
    | .error f => (m, .failed f)
    | .ok m => (m, .claiming log (.checking .looking))
  | .claiming log (.settled (.ok pidFile)) =>
    (m, .up
      { listener := ⟨c.server.listenAddress, ps.self⟩
        pidFile
        handler := .ofConfig c.server log sink
        concurrent := c.server.concurrent })
  | .claiming _ (.settled (.error e)) =>
    (m.close ⟨c.server.listenAddress, ps.self⟩, .failed e)
  | .claiming log claim =>
    let (files, claim) := claim.step ps c.daemon.pidFile m.files
    ({ m with files }, .claiming log claim)
  | .up s => (m, .up s)
  | .failed f => (m, .failed f)

def Startup.run (c : Config) (sink : Sink) (ps : Processes) : (steps : Nat) → Machine × Startup →
    Machine × Startup
  | 0, s => s
  | n + 1, s => Startup.run c sink ps n (Startup.step c sink ps s.1 s.2)

def Startup.length : Nat := PidFile.Lookup.length + PidFile.Claim.length + 4

def start (c : Config) (sink : Sink) (ps : Processes) (m : Machine) : Machine × Outcome Service :=
  match Startup.run c sink ps Startup.length (m, .checking .looking) with
  | (m, .up s) => (m, .ok s)
  | (m, .failed f) => (m, .error f)
  | (m, _) => (m, .error (.other "the start did not end" []))

def startConfigured (c : Config) (around : Surroundings) (ps : Processes) (m : Machine) :
    Machine × Outcome Service :=
  match Sink.ofConfig c.delivery around with
  | .error e => (m, .error e)
  | .ok sink => start c sink ps m

def Service.teardown (s : Service) (m : Machine) : Machine × Outcome Unit :=
  let m := m.close s.listener
  let (files, result) := s.pidFile.release m.files
  ({ m with files }, result)

end Relay

end EventRelay
