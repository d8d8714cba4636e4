import EventRelay.Client

namespace EventRelay.Cli

structure SendRequest where
  program : String
  title : String
  details : String := ""
  tag : Option String := none
  level : String := "info"
  server : Option String := none
  backup : Option String := none
  noAck : Bool := false
  deriving DecidableEq, Repr

namespace SendRequest

def event (r : SendRequest) : Event :=
  let e : Event :=
    { source := r.program, title := r.title, details := r.details, level := .ofName r.level }
  match r.tag with
  | some tag => e.withTag tag
  | none => e

def settings (r : SendRequest) (c : ClientConfig) : ClientConfig :=
  { c with
    primary := r.server.orElse fun _ => c.primary
    backup := r.backup.orElse fun _ => c.backup
    awaitAck := !r.noAck && c.awaitAck }

def client (r : SendRequest) (c : ClientConfig) : RelayClient := .ofConfig (r.settings c)

end SendRequest

end EventRelay.Cli
