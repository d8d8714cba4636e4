import EventRelay.Json.Fault

/-!
Everything that can go wrong in the relay and its client, as causes. The wording is in
`Failure.message`; an acknowledgement adds the innermost cause to it.
-/

namespace EventRelay

abbrev Causes := List String

inductive Failure
  | protocol (reason : String) (causes : Causes)
  | persistence (path operation : String) (causes : Causes)
  | delivery (sink reason : String) (causes : Causes)
  | transport (address operation : String) (causes : Causes)
  | connect (address : String) (causes : Causes)
  | connectTimeout (address : String) (ms : Nat)
  | timeout (operation : String) (ms : Nat)
  | notConfigured
  | alreadyRunning (pid : Nat)
  | detach (reason : String) (causes : Causes)
  | config (reason : String) (causes : Causes)
  | invalidValue (key value : String)
  | file (path operation : String) (causes : Causes)
  | other (message : String) (causes : Causes)
  deriving DecidableEq, Repr

inductive Failure.Category
  | protocol
  | persistence
  | delivery
  | transport
  | connect
  | daemon
  | config
  | io
  | internal
  deriving DecidableEq, Repr

namespace Failure

def Category.name : Category → String
  | .protocol => "protocol"
  | .persistence => "persistence"
  | .delivery => "delivery"
  | .transport => "transport"
  | .connect => "connect"
  | .daemon => "daemon"
  | .config => "config"
  | .io => "io"
  | .internal => "internal"

def category : Failure → Category
  | .protocol .. => .protocol
  | .persistence .. => .persistence
  | .delivery .. => .delivery
  | .transport .. => .transport
  | .connect .. | .connectTimeout .. | .timeout .. | .notConfigured => .connect
  | .alreadyRunning .. | .detach .. => .daemon
  | .config .. | .invalidValue .. => .config
  | .file .. => .io
  | .other .. => .internal

def message : Failure → String
  | .protocol reason _ => s!"Invalid data: {reason}"
  | .persistence path operation _ => s!"Failed to write event log '{path}': {operation}"
  | .delivery sink reason _ => s!"Delivery via {sink} failed: {reason}"
  | .transport address operation _ => s!"Transport error on {address}: {operation}"
  | .connect address _ => s!"Failed to connect to {address}"
  | .connectTimeout address ms => s!"Timed out after {ms} ms connecting to {address}"
  | .timeout operation ms => s!"Timed out after {ms} ms while {operation}"
  | .notConfigured => "No relay server address configured"
  | .alreadyRunning pid => s!"Relay daemon is already running (PID: {pid})"
  | .detach reason _ => s!"Failed to detach from terminal: {reason}"
  | .config reason _ => s!"Configuration error: {reason}"
  | .invalidValue key value => s!"Invalid configuration value for '{key}': {value}"
  | .file path operation _ => s!"File I/O error for '{path}': {operation}"
  | .other message _ => message

def causes : Failure → Causes
  | .protocol _ cs | .persistence _ _ cs | .delivery _ _ cs | .transport _ _ cs | .connect _ cs
  | .detach _ cs | .config _ cs | .file _ _ cs | .other _ cs => cs
  | .connectTimeout .. | .timeout .. | .notConfigured | .alreadyRunning _ | .invalidValue .. => []

/-- Appends the text of the cause that has no further cause. -/
def appendInnermost (text : String) : Causes → String
  | [] => text
  | [cause] => s!"{text}: {cause}"
  | _ :: cause :: causes => appendInnermost text (cause :: causes)

def ackMessage (f : Failure) : String := appendInnermost f.message f.causes

/-- Only a connection that was never established may be tried at another address. -/
def triggersFailover : Failure → Bool
  | .connect .. | .connectTimeout .. => true
  | _ => false

inductive SystemKind
  | notFound
  | permissionDenied
  | connectionRefused
  | timedOut
  | other
  deriving DecidableEq, Repr

def SystemKind.operation : SystemKind → String
  | .notFound => "file not found"
  | .permissionDenied => "permission denied"
  | .connectionRefused => "connection refused"
  | .timedOut => "timeout"
  | .other => "I/O operation"

def ofSystem (kind : SystemKind) (causes : Causes) : Failure :=
  .file "unknown" kind.operation causes

def during (operation : String) (causes : Causes) : Failure :=
  .other (operation ++ ": " ++ causes.headD "") causes

/-- A reported error with headings around it, outermost first: only the outermost text is kept. -/
def ofReport (message : String) (headings : List String) : Failure :=
  .other (headings.headD message) []

def ofJsonFault (fault : Json.Fault) (text : List Char) : Failure :=
  let reason := match fault.complaint.kind with
    | .malformed => s!"JSON syntax error at {(fault.position text).describe}"
    | .truncated => "unexpected end of JSON input"
    | .unsuitable => "JSON data error"
  .protocol reason [fault.describe text]

end Failure

abbrev Outcome (α : Type) := Except Failure α

end EventRelay
