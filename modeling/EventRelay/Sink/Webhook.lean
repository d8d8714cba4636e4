import EventRelay.Config
import EventRelay.Sink
import EventRelay.Text.Blank

namespace EventRelay

structure WebhookSink where
  url : Url
  timeoutSecs : Nat
  deriving DecidableEq, Repr

inductive WebAnswer
  | status (code : Nat) (cause : String)
  | timedOut (causes : Causes)
  | failed (causes : Causes)
  deriving DecidableEq, Repr

abbrev WebServers := Url → Json.Value → (timeoutSecs : Nat) → WebAnswer

namespace WebhookSink

def ofConfig (c : WebhookConfig) : Outcome WebhookSink :=
  match c.url.filter (!Text.isBlankText ·) with
  | none =>
    .error (.config "webhook sink selected but delivery.webhook.url is not set" [])
  | some raw =>
    match Url.parse? raw with
    | some url => .ok { url, timeoutSecs := max c.timeoutSecs 1 }
    | none => .error (.invalidValue "delivery.webhook.url" raw)

def failure (reason : String) (causes : Causes) : Failure := .delivery "webhook" reason causes

def resultOf : WebAnswer → Outcome Recipients
  | .status code cause =>
    if 400 ≤ code then .error (failure s!"webhook returned HTTP {code}" [cause]) else .ok none
  | .timedOut causes => .error (failure "webhook request timed out" causes)
  | .failed causes => .error (failure "webhook request failed" causes)

def deliver (s : WebhookSink) (servers : WebServers) (m : Message) : Delivery :=
  { acts := [.post s.url m.chatPost]
    result := resultOf (servers s.url m.chatPost s.timeoutSecs) }

def toSink (s : WebhookSink) (servers : WebServers) : Sink :=
  { name := "webhook", deliver := fun _ m => s.deliver servers m }

end WebhookSink

end EventRelay
