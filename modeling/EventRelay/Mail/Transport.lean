import EventRelay.Config
import EventRelay.Mail.Address
import EventRelay.Mail.Envelope
import EventRelay.Program

namespace EventRelay.Mail

abbrev Transport := Envelope → Outcome Unit

abbrev Server := SmtpConfig → Address → List Address → String → Except String Unit

def failure (reason : String) (causes : Causes) : Failure := .delivery "mail" reason causes

def viaServer (server : Server) (c : SmtpConfig) : Transport := fun e => do
  let sender ← Address.ofMailbox e.sender
  let recipients ← e.recipients.mapM Address.ofMailbox
  if recipients.isEmpty then
    throw (failure "invalid envelope" ["missing destination address, invalid envelope"])
  match server c sender recipients e.message with
  | .ok () => return ()
  | .error cause => throw (failure s!"SMTP submission to {c.host}:{c.port} failed" [cause])

def viaProgram (commands : Program.Commands) (command : String) (args : List String) : Transport :=
  fun e =>
    match commands command args (.ofString e.message) with
    | .notStarted cause => .error (failure s!"failed to start '{command}'" [cause])
    | .closed cause => .error (failure "failed to write message" [cause])
    | .ended ending errors =>
      if ending.isSuccess then .ok ()
      else
        let errors := Text.trim (Bytes.toStringLossy errors)
        .error (failure s!"'{command}' exited with {ending.text}: {errors}" [])

end EventRelay.Mail
