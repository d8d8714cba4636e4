import EventRelay.Sink.Mail
import EventRelay.Sink.Sound
import EventRelay.Sink.Webhook

namespace EventRelay

structure Surroundings where
  host : String
  mailServer : Mail.Server
  commands : Program.Commands
  starts : Program.Starts := fun _ _ => .ok ()
  webServers : WebServers

namespace Sink

def mailTransport (c : MailConfig) (around : Surroundings) : Mail.Transport :=
  if Text.isBlankText c.smtp.host then Mail.viaProgram around.commands c.command c.args
  else Mail.viaServer around.mailServer c.smtp

def ofConfig (c : DeliveryConfig) (around : Surroundings) : Outcome Sink :=
  match c.sink with
  | .mail => .ok ((MailSink.ofConfig c.mail around.host).toSink (mailTransport c.mail around))
  | .sound =>
    .ok ((SoundSink.ofConfig c.sound).toSink (.ofConfig c.sound around.starts))
  | .webhook => (WebhookSink.ofConfig c.webhook).map (·.toSink around.webServers)

end Sink

end EventRelay
