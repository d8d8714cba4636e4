import EventRelay.Config
import EventRelay.Failure

namespace EventRelay.Relay

inductive ServiceMode
  | foreground
  | background (directory : Path)
  deriving DecidableEq, Repr

namespace ServiceMode

def ofConfig (c : DaemonConfig) (detach : Bool) : ServiceMode :=
  if detach then .background c.workingDirectory else .foreground

def name : ServiceMode → String
  | .foreground => "foreground"
  | .background _ => "background"

def isBackground : ServiceMode → Bool
  | .foreground => false
  | .background _ => true

def enter (self : Nat) (detach : Path → Except String Nat) : ServiceMode → Outcome Nat
  | .foreground => .ok self
  | .background directory =>
    (detach directory).mapError fun cause => .detach "daemonize failed" [cause]

end ServiceMode

end EventRelay.Relay
