import EventRelay.Acknowledgement
import EventRelay.Config.Environment
import EventRelay.Event.Wire
import EventRelay.Files

/-!
The client: it hands one event to the first relay that can be reached. The network is a value that
says what every address does at every attempt, and a run keeps the attempts and what went out.
-/

namespace EventRelay

inductive WriteResult
  | taken
  | broken (cause : String)
  | stalled
  deriving DecidableEq, Repr

inductive ReplyEnd
  | closed
  | silent
  | broken
  deriving DecidableEq, Repr

structure Peer where
  write : WriteResult := .taken
  reply : Bytes := []
  ending : ReplyEnd := .closed
  deriving DecidableEq, Repr

inductive Connect
  | established (peer : Peer)
  | refused (cause : String)
  | pending
  deriving DecidableEq, Repr

abbrev Network := String → Connect

structure Network.Course where
  during : (attempt : Nat) → Network

def Network.steady (net : Network) : Network.Course := ⟨fun _ => net⟩

instance : Coe Network Network.Course := ⟨Network.steady⟩

inductive AddressError
  | noPort
  | badPort
  deriving DecidableEq, Repr

def AddressError.message : AddressError → String
  | .noPort => "invalid socket address"
  | .badPort => "invalid port value"

def parseAddress (address : String) : Except AddressError (String × Nat) :=
  let reversed := address.toList.reverse
  match reversed.dropWhile (· != ':') with
  | [] => .error .noPort
  | _ :: host =>
    match Text.parseNat? Text.max16 (String.ofList (reversed.takeWhile (· != ':')).reverse) with
    | some port => .ok (String.ofList host.reverse, port)
    | none => .error .badPort

def Network.uniform (host : String → Nat → Connect) : Network := fun address =>
  match parseAddress address with
  | .error e => .refused e.message
  | .ok (name, port) => host name port

structure RelayClient where
  primary : Option String
  backup : Option String
  connectTimeoutMs : Nat
  sendTimeoutMs : Nat
  receiveTimeoutMs : Nat
  awaitAck : Bool
  deriving DecidableEq, Repr

structure Receipt where
  address : String
  acknowledgement : Option Acknowledgement
  deriving DecidableEq, Repr

def Receipt.confirmed (r : Receipt) : Bool := r.acknowledgement.any (·.isSuccess)

structure Traffic where
  attempts : List String := []
  written : List (String × String) := []
  deriving DecidableEq, Repr

namespace RelayClient

def usable (address : Option String) : Option String :=
  (address.map Text.trim).filter (!·.isEmpty)

def ofConfig (c : ClientConfig) : RelayClient :=
  { primary := usable c.primary
    backup := usable c.backup
    connectTimeoutMs := c.connectTimeoutMs
    sendTimeoutMs := c.sendTimeoutMs
    receiveTimeoutMs := c.receiveTimeoutMs
    awaitAck := c.awaitAck }

def ofEnvironment (env : Environment) : Outcome RelayClient :=
  ((({} : Config).withEnvironment env)).map fun c => ofConfig c.client

def addresses (c : RelayClient) : List String := c.primary.toList ++ c.backup.toList

/-- The first line of a reply with its line feed, if it came in time; what is unterminated counts
once the peer has closed the connection. -/
def firstLine (p : Peer) : Option Bytes :=
  let line := p.reply.takeWhile (· != 10)
  if line.length < p.reply.length then some (line ++ [10])
  else
    match p.ending with
    | .closed => if line.isEmpty then none else some line
    | .silent | .broken => none

def readReply (p : Peer) : Option Acknowledgement := do
  (Acknowledgement.decode (← (← firstLine p).toString?)).toOption

def exchange (c : RelayClient) (peer : Peer) (address : String) :
    Outcome (Option Acknowledgement) :=
  match peer.write with
  | .broken cause => .error (.transport address "send event" [cause])
  | .stalled => .error (.timeout "sending event" c.sendTimeoutMs)
  | .taken => .ok (if c.awaitAck then readReply peer else none)

def connect (c : RelayClient) (net : Network) (address : String) : Outcome Peer :=
  match net address with
  | .established peer => .ok peer
  | .refused cause => .error (.connect address [cause])
  | .pending => .error (.connectTimeout address c.connectTimeoutMs)

/-- Tries the addresses in order; only a connection that fails leads on to the next one. -/
def sendTo (c : RelayClient) (net : Network.Course) (line : String) :
    (addresses : List String) → (last : Failure) → Traffic → Traffic × Outcome Receipt
  | [], last, traffic => (traffic, .error last)
  | address :: rest, _, traffic =>
    let connected := c.connect (net.during traffic.attempts.length) address
    let traffic := { traffic with attempts := traffic.attempts ++ [address] }
    match connected with
    | .ok peer =>
      ({ traffic with written := traffic.written ++ [(address, line)] },
        (c.exchange peer address).map fun acknowledgement => { address, acknowledgement })
    | .error e => if e.triggersFailover then c.sendTo net line rest e traffic
      else (traffic, .error e)

def send (c : RelayClient) (net : Network.Course) (e : Event) (now : Int) :
    Traffic × Outcome Receipt :=
  c.sendTo net (e.encode now) c.addresses .notConfigured {}

def notify (c : RelayClient) (net : Network.Course) (e : Event) (now : Int) : Bool :=
  (c.send net e now).2.toOption.isSome

end RelayClient

end EventRelay
