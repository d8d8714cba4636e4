import EventRelay.Config.Environment
import EventRelay.Mail.Transport
import EventRelay.Message.Page
import EventRelay.Sink

namespace EventRelay

structure MailSink where
  enabled : Bool
  sender : String
  recipients : List String
  host : String
  deriving DecidableEq, Repr

namespace MailSink

def ofConfig (c : MailConfig) (host : String) : MailSink :=
  { enabled := c.enabled
    sender := c.sender
    recipients := c.recipients.flatMap Config.splitRecipients
    host }

def envelope (s : MailSink) (m : Message) : Mail.Envelope :=
  { sender := s.sender
    recipients := s.recipients
    subject := m.subject
    html := m.html s.host }

def deliver (s : MailSink) (transport : Mail.Transport) (m : Message) : Delivery :=
  if ¬ s.enabled then { result := .ok none }
  else if s.recipients.isEmpty then { result := .error (Mail.failure "no recipients configured" []) }
  else
    { acts := [.submit (s.envelope m)]
      result := (transport (s.envelope m)).map fun () => some s.recipients }

def toSink (s : MailSink) (transport : Mail.Transport) : Sink :=
  { name := "mail", deliver := fun _ m => s.deliver transport m }

end MailSink

end EventRelay
