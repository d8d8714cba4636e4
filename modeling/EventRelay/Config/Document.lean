import EventRelay.Config
import EventRelay.Text.Number
import EventRelay.Toml.Document
import EventRelay.Toml.Writer

/-!
Configurations as TOML documents. Every field has one description, by which it is read and
written; what a document leaves out keeps the default of its table.
-/

namespace EventRelay.Config

open Toml (Value Scalar Section)

inductive Written
  | scalar (v : Scalar)
  | omitted
  | impossible

structure Field (σ : Type) where
  key : String
  read : Value → σ → Option σ
  write : σ → Written := fun _ => .omitted

def readText : Value → Option String
  | .string s => some s
  | _ => none

def readPath (v : Value) : Option Path := (readText v).map fun s => ⟨s⟩

def readFlag : Value → Option Bool
  | .boolean b => some b
  | _ => none

def readNat (max : Nat) : Value → Option Nat
  | .integer n => if 0 ≤ n ∧ n ≤ max then some n.toNat else none
  | _ => none

def readTexts : Value → Option (List String)
  | .array values => values.mapM readText
  | _ => none

def isEmptyValue : Value → Bool
  | .array [] | .table [] => true
  | _ => false

def readChoice (names : List (String × α)) : Value → Option α
  | .string s => names.lookup s
  | .table [(key, v)] => if isEmptyValue v then names.lookup key else none
  | _ => none

/-- Only a signed number of 64 bits can be written. -/
def writeNat (n : Nat) : Written :=
  if n ≤ Text.maxSigned64 then .scalar (.integer n) else .impossible

def writeText (s : String) : Written := .scalar (.string s)

def writeOptional (s : Option String) : Written :=
  match s with
  | some s => writeText s
  | none => .omitted

def writeChoice [DecidableEq α] (names : List (String × α)) (a : α) : Written :=
  match names.find? (·.2 = a) with
  | some (name, _) => writeText name
  | none => .impossible

def textField (key : String) (get : σ → String) (set : String → σ → σ) : Field σ :=
  ⟨key, fun v s => (readText v).map (set · s), fun s => writeText (get s)⟩

def optionalField (key : String) (get : σ → Option String) (set : String → σ → σ) : Field σ :=
  ⟨key, fun v s => (readText v).map (set · s), fun s => writeOptional (get s)⟩

def pathField (key : String) (get : σ → Path) (set : Path → σ → σ) : Field σ :=
  ⟨key, fun v s => (readPath v).map (set · s), fun s => writeText (get s).text⟩

def natField (key : String) (max : Nat) (get : σ → Nat) (set : Nat → σ → σ) : Field σ :=
  ⟨key, fun v s => (readNat max v).map (set · s), fun s => writeNat (get s)⟩

def flagField (key : String) (get : σ → Bool) (set : Bool → σ → σ) : Field σ :=
  ⟨key, fun v s => (readFlag v).map (set · s), fun s => .scalar (.boolean (get s))⟩

def textsField (key : String) (get : σ → List String) (set : List String → σ → σ) : Field σ :=
  ⟨key, fun v s => (readTexts v).map (set · s), fun s => .scalar (.strings (get s))⟩

def choiceField [DecidableEq α] (key : String) (names : List (String × α)) (get : σ → α)
    (set : α → σ → σ) : Field σ :=
  ⟨key, fun v s => (readChoice names v).map (set · s), fun s => writeChoice names (get s)⟩

def tableField (key : String) (read : Value → Option τ) (set : τ → σ → σ) : Field σ :=
  { key, read := fun v s => (read v).map (set · s) }

/--
Reads a table; keys that no field has are passed over. A list gives the fields in order, and a date
counts as a table without any known key.
-/
def readFields (fields : List (Field σ)) (default : σ) : Value → Option σ
  | .table entries =>
    entries.foldlM (fun s (key, v) =>
      match fields.find? (·.key == key) with
      | some field => field.read v s
      | none => some s) default
  | .array values => (fields.zip values).foldlM (fun s (field, v) => field.read v s) default
  | .date => some default
  | _ => none

def writeFields (name : String) (fields : List (Field σ)) (s : σ) : Option Section := do
  let assignments ← fields.filterMapM fun field =>
    match field.write s with
    | .scalar v => some (some (field.key, v))
    | .omitted => some none
    | .impossible => none
  some { name, assignments }

open Text (max16 max64)

def serverFields : List (Field ServerConfig) :=
  [textField "bind" (·.bind) fun v s => { s with bind := v },
    natField "port" max16 (·.port) fun v s => { s with port := v },
    natField "buffer_size" max64 (·.bufferSize) fun v s => { s with bufferSize := v },
    natField "read_timeout_ms" max64 (·.readTimeoutMs) fun v s => { s with readTimeoutMs := v },
    natField "delivery_timeout_ms" max64 (·.deliveryTimeoutMs)
      fun v s => { s with deliveryTimeoutMs := v },
    flagField "concurrent" (·.concurrent) fun v s => { s with concurrent := v },
    natField "poll_interval_ms" max64 (·.pollIntervalMs) fun v s => { s with pollIntervalMs := v }]

def rotationNames : List (String × Rotation) := [("size", .size), ("lines", .lines)]

def logFields : List (Field LogConfig) :=
  [pathField "path" (·.path) fun v s => { s with path := v },
    choiceField "strategy" rotationNames (·.rotation) fun v s => { s with rotation := v },
    natField "max_bytes" max64 (·.maxBytes) fun v s => { s with maxBytes := v },
    natField "max_lines" max64 (·.maxLines) fun v s => { s with maxLines := v }]

def tlsNames : List (String × SmtpTls) :=
  [("wrapper", .wrapper), ("starttls", .startTls), ("none", .none)]

def smtpFields : List (Field SmtpConfig) :=
  [textField "host" (·.host) fun v s => { s with host := v },
    natField "port" max16 (·.port) fun v s => { s with port := v },
    choiceField "tls" tlsNames (·.tls) fun v s => { s with tls := v },
    textField "user" (·.user) fun v s => { s with user := v },
    optionalField "password" (·.password) fun v s => { s with password := some v }]

def mailFields : List (Field MailConfig) :=
  [flagField "enabled" (·.enabled) fun v s => { s with enabled := v },
    textField "from" (·.sender) fun v s => { s with sender := v },
    textsField "to" (·.recipients) fun v s => { s with recipients := v },
    tableField "smtp" (readFields smtpFields {}) fun v s => { s with smtp := v },
    textField "command" (·.command) fun v s => { s with command := v },
    textsField "args" (·.args) fun v s => { s with args := v }]

def soundFields : List (Field SoundConfig) :=
  [flagField "enabled" (·.enabled) fun v s => { s with enabled := v },
    pathField "file" (·.file) fun v s => { s with file := v },
    textField "player" (·.player) fun v s => { s with player := v },
    flagField "say_message" (·.sayMessage) fun v s => { s with sayMessage := v },
    textField "say_command" (·.sayCommand) fun v s => { s with sayCommand := v }]

def webhookFields : List (Field WebhookConfig) :=
  [optionalField "url" (·.url) fun v s => { s with url := some v },
    natField "timeout_secs" max64 (·.timeoutSecs) fun v s => { s with timeoutSecs := v }]

def sinkNames : List (String × SinkKind) :=
  [("mail", .mail), ("sound", .sound), ("webhook", .webhook)]

def deliveryFields : List (Field DeliveryConfig) :=
  [choiceField "sink" sinkNames (·.sink) fun v s => { s with sink := v },
    tableField "mail" (readFields mailFields {}) fun v s => { s with mail := v },
    tableField "sound" (readFields soundFields {}) fun v s => { s with sound := v },
    tableField "webhook" (readFields webhookFields {}) fun v s => { s with webhook := v }]

def daemonFields : List (Field DaemonConfig) :=
  [pathField "pid_file" (·.pidFile) fun v s => { s with pidFile := v },
    textField "log_level" (·.logLevel) fun v s => { s with logLevel := v },
    optionalField "diagnostic_log" (·.diagnosticLog.map Path.text)
      fun v s => { s with diagnosticLog := some ⟨v⟩ },
    pathField "working_directory" (·.workingDirectory) fun v s => { s with workingDirectory := v }]

def clientFields : List (Field ClientConfig) :=
  [optionalField "primary" (·.primary) fun v s => { s with primary := some v },
    optionalField "backup" (·.backup) fun v s => { s with backup := some v },
    natField "connect_timeout_ms" max64 (·.connectTimeoutMs)
      fun v s => { s with connectTimeoutMs := v },
    natField "send_timeout_ms" max64 (·.sendTimeoutMs) fun v s => { s with sendTimeoutMs := v },
    natField "receive_timeout_ms" max64 (·.receiveTimeoutMs)
      fun v s => { s with receiveTimeoutMs := v },
    flagField "await_ack" (·.awaitAck) fun v s => { s with awaitAck := v }]

def fields : List (Field Config) :=
  [tableField "server" (readFields serverFields {}) fun v s => { s with server := v },
    tableField "log" (readFields logFields {}) fun v s => { s with log := v },
    tableField "delivery" (readFields deliveryFields {}) fun v s => { s with delivery := v },
    tableField "daemon" (readFields daemonFields {}) fun v s => { s with daemon := v },
    tableField "client" (readFields clientFields {}) fun v s => { s with client := v }]

def ofTable (t : Toml.Table) : Option Config := readFields fields {} (.table t)

def parse? (text : String) : Option Config := do ofTable (← Toml.read text)

def sections (c : Config) : Option (List Section) := do
  some [← writeFields "server" serverFields c.server,
    ← writeFields "log" logFields c.log,
    ← writeFields "delivery" deliveryFields c.delivery,
    ← writeFields "delivery.mail" mailFields c.delivery.mail,
    ← writeFields "delivery.mail.smtp" smtpFields c.delivery.mail.smtp,
    ← writeFields "delivery.sound" soundFields c.delivery.sound,
    ← writeFields "delivery.webhook" webhookFields c.delivery.webhook,
    ← writeFields "daemon" daemonFields c.daemon,
    ← writeFields "client" clientFields c.client]

def render? (c : Config) : Option String := c.sections.map Toml.renderSections

end EventRelay.Config
