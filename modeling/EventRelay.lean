import EventRelay.Main
import EventRelay.Proofs.Connection.Exchange
import EventRelay.Proofs.Relay.Interleaving
import EventRelay.Proofs.Client.Failover
import EventRelay.Proofs.Connection.Reply
import EventRelay.Proofs.Event.RoundTrip
import EventRelay.Proofs.Connection.Steps
import EventRelay.Proofs.Relay.InTurn
import EventRelay.Proofs.Relay.Lifecycle
import EventRelay.Proofs.EventLog.Verdict
import EventRelay.Proofs.Connection.ToCome
import EventRelay.Proofs.Relay.SideBySide
import EventRelay.Proofs.Relay.SingleInstance
import EventRelay.Proofs.Relay.AllOrNothing
import EventRelay.Proofs.Config.Overlay
import EventRelay.Proofs.Connection.Record
import EventRelay.Proofs.Connection.Chunks
import EventRelay.Proofs.EventLog.OwnLine
import EventRelay.Proofs.Connection.Outcome
import EventRelay.Proofs.Config.Anchoring
import EventRelay.Proofs.Config.Refusal
import EventRelay.Proofs.Message.Page
import EventRelay.Proofs.Mail.Envelope
import EventRelay.Proofs.Event.Values
import EventRelay.Proofs.Connection.CutShort
import EventRelay.Proofs.Client.Confirmation
import EventRelay.Proofs.PidFile.Ownership
import EventRelay.Proofs.Cli.Stop
import EventRelay.Proofs.Client.Environment
import EventRelay.Proofs.Config.Saved
import EventRelay.Proofs.Sink.Recipients
import EventRelay.Proofs.Sink.Sound
import EventRelay.Proofs.EventLog.Refusal
import EventRelay.Proofs.Cli.Init
import EventRelay.Proofs.Failure.RootCause
