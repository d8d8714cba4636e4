import EventRelay.Acknowledgement
import EventRelay.Connection.LineReader
import EventRelay.Event.Wire
import EventRelay.EventLog
import EventRelay.Sink

/-!
One connection from its request to its reply. It moves through stages, of which each does one thing
that others can see: the log is opened, the entry is written, the sink is called, the reply is
sent. `Handler.handle` runs them all; a relay that serves connections side by side interleaves
them.
-/

namespace EventRelay

structure Handler where
  log : EventLog
  sink : Sink
  readTimeoutMs : Nat
  deliveryTimeoutMs : Nat
  bufferSize : Nat

def Handler.ofConfig (c : ServerConfig) (log : EventLog) (sink : Sink) : Handler :=
  { log, sink
    readTimeoutMs := c.readTimeoutMs
    deliveryTimeoutMs := c.deliveryTimeoutMs
    bufferSize := max c.bufferSize 1 }

/-- What the other end does to the reply, which is written as a whole or not at all. -/
inductive ReplyFault
  | write (cause : String)
  | flush (cause : String)
  | shutdown
  deriving DecidableEq, Repr

structure Caller where
  name : String
  incoming : Incoming
  replyFault : Option ReplyFault := none
  receivedAt : Int
  answeredAt : Int
  /-- The call of the sink that its request leads to. -/
  call : Nat := 0
  deriving DecidableEq, Repr

inductive HandleOutcome
  | responded (ack : Acknowledgement)
  | abandoned (why : Abandonment)
  deriving DecidableEq, Repr

inductive Stage
  | waiting
  | logging (event : Event) (entry : LogEntry)
  /-- The log is open and locked. -/
  | writing (event : Event) (pending : EventLog.Pending)
  | delivering (event : Event) (logged : Outcome Unit)
  | answering (ack : Acknowledgement)
  | ended (outcome : Outcome HandleOutcome)

namespace Stage

def remaining : Stage → Nat
  | .waiting => 5
  | .logging .. => 4
  | .writing .. => 3
  | .delivering .. => 2
  | .answering .. => 1
  | .ended _ => 0

def holdsLock : Stage → Bool
  | .writing .. => true
  | _ => false

end Stage

inductive Effect
  | logged (result : Outcome Unit)
  | delivered (message : Message) (acts : List Act)
  | replied (line : String)
  | hungUp

namespace Handler

def receive (c : Caller) (request : Request) : Stage :=
  match request with
  | .none why => .ended (.ok (.abandoned why))
  | .refused f => .answering (.error f.ackMessage c.answeredAt)
  | .line text =>
    match Event.decode text with
    | .error f => .answering (.error f.ackMessage c.answeredAt)
    | .ok event =>
      let raw := String.ofList (Text.trimEnd text.toList)
      .logging event { receivedAt := c.receivedAt, raw }

def acknowledge (c : Caller) (logged : Outcome Unit) (delivered : Outcome Recipients) :
    Acknowledgement :=
  match logged, delivered with
  | .error f, _ => .error f.ackMessage c.answeredAt
  | .ok (), .error f => .error f.ackMessage c.answeredAt
  | .ok (), .ok recipients => .success recipients c.answeredAt

/-- Sends the reply; that the other end is gone by the shutdown does not matter. -/
def reply (c : Caller) (ack : Acknowledgement) : List Effect × Outcome HandleOutcome :=
  match c.replyFault with
  | some (.write cause) => ([], .error (.transport c.name "write acknowledgement" [cause]))
  | some (.flush cause) =>
    ([.replied ack.encode], .error (.transport c.name "flush acknowledgement" [cause]))
  | some .shutdown => ([.replied ack.encode], .ok (.responded ack))
  | none => ([.replied ack.encode, .hungUp], .ok (.responded ack))

structure Step where
  files : FileSystem
  effects : List Effect := []
  stage : Stage

def step (h : Handler) (c : Caller) (fs : FileSystem) : Stage → Step
  | .waiting =>
    { files := fs
      stage := receive c (.read h.bufferSize h.readTimeoutMs c.incoming) }
  | .logging event entry =>
    match h.log.start entry fs with
    | .error f =>
      { files := fs, effects := [.logged (.error f)], stage := .delivering event (.error f) }
    | .ok (fs, pending) => { files := fs, stage := .writing event pending }
  | .writing event pending =>
    { files := pending.finish fs, effects := [.logged (.ok ())]
      stage := .delivering event (.ok ()) }
  | .delivering event logged =>
    let message := Message.ofEvent event
    let delivery := h.sink.deliver ⟨fs, c.call⟩ message
    { files := fs
      effects := [.delivered message delivery.acts]
      stage := .answering
        (acknowledge c logged (delivery.within h.deliveryTimeoutMs h.sink.name)) }
  | .answering ack =>
    let (effects, outcome) := reply c ack
    { files := fs, effects, stage := .ended outcome }
  | .ended outcome => { files := fs, stage := .ended outcome }

def run (h : Handler) (c : Caller) (s : Step) : (n : Nat) → Step
  | 0 => s
  | n + 1 =>
    let next := h.step c s.files s.stage
    h.run c { next with effects := s.effects ++ next.effects } n

def handle (h : Handler) (c : Caller) (fs : FileSystem) : Step :=
  h.run c { files := fs, stage := .waiting } Stage.waiting.remaining

end Handler

namespace Effect

def messages (effects : List Effect) : List Message :=
  effects.filterMap fun
    | .delivered message _ => some message
    | _ => none

def written (effects : List Effect) : String :=
  String.join (effects.filterMap fun
    | .replied line => some line
    | _ => none)

def hasHungUp (effects : List Effect) : Bool :=
  effects.any fun
    | .hungUp => true
    | _ => false

end Effect

end EventRelay
