import EventRelay.Config.Document

namespace EventRelay.Config

open Toml (Value)
open Text (max16 max64)

def at? : (path : List String) → Value → Option Value
  | [], v => some v
  | name :: path, .table entries => (entries.reverse.lookup name).bind (at? path)
  | _ :: _, _ => none

inductive Kind
  | text
  | nat (max : Nat)
  | flag
  | texts
  | choice (names : List String)

def isTextValue : Value → Bool
  | .string _ => true
  | _ => false

def Kind.content? : Kind → Value → Option Value
  | .text, .string s => some (.string s)
  | .nat max, .integer n => if 0 ≤ n ∧ n ≤ max then some (.integer n) else none
  | .flag, .boolean b => some (.boolean b)
  | .texts, .array values => if values.all isTextValue then some (.array values) else none
  | .choice names, .string s => if s ∈ names then some (.string s) else none
  | .choice names, .table [(s, v)] =>
    if isEmptyValue v ∧ s ∈ names then some (.string s) else none
  | _, _ => none

/-- On the way along the path stand tables, and at its end, if anything, a value of the kind. -/
def FitsAt (kind : Kind) : (path : List String) → Value → Prop
  | [], v => (kind.content? v).isSome
  | name :: path, .table entries => ∀ e ∈ entries, e.1 = name → FitsAt kind path e.2
  | _ :: _, _ => False

theorem fitsAt_cons {kind : Kind} {name : String} {path : List String} {v : Value} :
    FitsAt kind (name :: path) v ↔
      ∃ entries, v = .table entries ∧ ∀ w, (name, w) ∈ entries → FitsAt kind path w := by
  cases v with
  | table entries =>
    rw [FitsAt]
    constructor
    · exact fun fits => ⟨entries, rfl, fun w hw => fits (name, w) hw rfl⟩
    · rintro ⟨_, same, fits⟩ ⟨_, w⟩ hw rfl
      cases same
      exact fits w hw
  | _ =>
    constructor
    · exact False.elim
    · rintro ⟨entries, same, -⟩
      cases same

instance FitsAt.decidable (kind : Kind) : (path : List String) → (v : Value) →
    Decidable (FitsAt kind path v)
  | [], v => inferInstanceAs (Decidable ((kind.content? v).isSome = true))
  | _ :: path, .table entries =>
    have (e : String × Value) := FitsAt.decidable kind path e.2
    inferInstanceAs (Decidable (∀ e ∈ entries, _ → FitsAt kind path e.2))
  | _ :: _, .string _ | _ :: _, .integer _ | _ :: _, .float | _ :: _, .boolean _ | _ :: _, .date
  | _ :: _, .array _ => instDecidableFalse

/-- A key of the settings `σ`, and what they hold under it; a setting may be missing. -/
structure Key (σ : Type) where
  name : String
  below : List String := []
  kind : Kind
  content : σ → Option Value

namespace Key

def path (k : Key σ) : List String := k.name :: k.below

def said (k : Key σ) (v : Value) : Option Value := (at? k.path v).bind k.kind.content?

def Fits (k : Key σ) (v : Value) : Prop := FitsAt k.kind k.path v

instance (k : Key σ) (v : Value) : Decidable (k.Fits v) := FitsAt.decidable k.kind k.path v

@[simp] def under (name : String) (get : σ → τ) (k : Key τ) : Key σ :=
  ⟨name, k.path, k.kind, fun s => k.content (get s)⟩

@[simp] def optionalText (name : String) (get : σ → Option String) : Key σ :=
  { name, kind := .text, content := fun s => (get s).map .string }

@[simp] def text (name : String) (get : σ → String) : Key σ :=
  optionalText name fun s => some (get s)

@[simp] def nat (name : String) (max : Nat) (get : σ → Nat) : Key σ :=
  { name, kind := .nat max, content := fun s => some (.integer (get s)) }

@[simp] def flag (name : String) (get : σ → Bool) : Key σ :=
  { name, kind := .flag, content := fun s => some (.boolean (get s)) }

@[simp] def texts (name : String) (get : σ → List String) : Key σ :=
  { name, kind := .texts, content := fun s => some (.array ((get s).map .string)) }

@[simp] def choice (name : String) (names : List String) (get : σ → String) : Key σ :=
  { name, kind := .choice names, content := fun s => some (.string (get s)) }

end Key

def rotationName : Rotation → String
  | .size => "size"
  | .lines => "lines"

def tlsName : SmtpTls → String
  | .wrapper => "wrapper"
  | .startTls => "starttls"
  | .none => "none"

def sinkName : SinkKind → String
  | .mail => "mail"
  | .sound => "sound"
  | .webhook => "webhook"

open Key

def serverKeys : List (Key ServerConfig) :=
  [text "bind" (·.bind), nat "port" max16 (·.port), nat "buffer_size" max64 (·.bufferSize),
    nat "read_timeout_ms" max64 (·.readTimeoutMs),
    nat "delivery_timeout_ms" max64 (·.deliveryTimeoutMs), flag "concurrent" (·.concurrent),
    nat "poll_interval_ms" max64 (·.pollIntervalMs)]

def logKeys : List (Key LogConfig) :=
  [text "path" (·.path.text), choice "strategy" ["size", "lines"] (rotationName ·.rotation),
    nat "max_bytes" max64 (·.maxBytes), nat "max_lines" max64 (·.maxLines)]

def smtpKeys : List (Key SmtpConfig) :=
  [text "host" (·.host), nat "port" max16 (·.port),
    choice "tls" ["wrapper", "starttls", "none"] (tlsName ·.tls), text "user" (·.user),
    optionalText "password" (·.password)]

def mailKeys : List (Key MailConfig) :=
  [flag "enabled" (·.enabled), text "from" (·.sender), texts "to" (·.recipients),
    text "command" (·.command), texts "args" (·.args)] ++ smtpKeys.map (under "smtp" (·.smtp))

def soundKeys : List (Key SoundConfig) :=
  [flag "enabled" (·.enabled), text "file" (·.file.text), text "player" (·.player),
    flag "say_message" (·.sayMessage), text "say_command" (·.sayCommand)]

def webhookKeys : List (Key WebhookConfig) :=
  [optionalText "url" (·.url), nat "timeout_secs" max64 (·.timeoutSecs)]

def deliveryKeys : List (Key DeliveryConfig) :=
  choice "sink" ["mail", "sound", "webhook"] (sinkName ·.sink) ::
    (mailKeys.map (under "mail" (·.mail)) ++ soundKeys.map (under "sound" (·.sound)) ++
      webhookKeys.map (under "webhook" (·.webhook)))

def daemonKeys : List (Key DaemonConfig) :=
  [text "pid_file" (·.pidFile.text), text "log_level" (·.logLevel),
    optionalText "diagnostic_log" (·.diagnosticLog.map Path.text),
    text "working_directory" (·.workingDirectory.text)]

def clientKeys : List (Key ClientConfig) :=
  [optionalText "primary" (·.primary), optionalText "backup" (·.backup),
    nat "connect_timeout_ms" max64 (·.connectTimeoutMs),
    nat "send_timeout_ms" max64 (·.sendTimeoutMs),
    nat "receive_timeout_ms" max64 (·.receiveTimeoutMs), flag "await_ack" (·.awaitAck)]

def keys : List (Key Config) :=
  serverKeys.map (under "server" (·.server)) ++ logKeys.map (under "log" (·.log)) ++
    deliveryKeys.map (under "delivery" (·.delivery)) ++
    daemonKeys.map (under "daemon" (·.daemon)) ++ clientKeys.map (under "client" (·.client))

theorem forall_mem_deliveryKeys {p : Key DeliveryConfig → Prop} : (∀ k ∈ deliveryKeys, p k) ↔
    p (.choice "sink" ["mail", "sound", "webhook"] (sinkName ·.sink)) ∧
    (∀ k ∈ mailKeys.map (Key.under "mail" DeliveryConfig.mail), p k) ∧
    (∀ k ∈ soundKeys.map (Key.under "sound" DeliveryConfig.sound), p k) ∧
    ∀ k ∈ webhookKeys.map (Key.under "webhook" DeliveryConfig.webhook), p k := by
  simp only [deliveryKeys, List.forall_mem_cons, List.forall_mem_append, and_assoc]

theorem forall_mem_keys {p : Key Config → Prop} : (∀ k ∈ keys, p k) ↔
    (∀ k ∈ serverKeys.map (Key.under "server" Config.server), p k) ∧
    (∀ k ∈ logKeys.map (Key.under "log" Config.log), p k) ∧
    (∀ k ∈ deliveryKeys.map (Key.under "delivery" Config.delivery), p k) ∧
    (∀ k ∈ daemonKeys.map (Key.under "daemon" Config.daemon), p k) ∧
    ∀ k ∈ clientKeys.map (Key.under "client" Config.client), p k := by
  simp only [keys, List.forall_mem_append, and_assoc]

def Determine (ks : List (Key σ)) : Prop :=
  ∀ ⦃s s'⦄, (∀ k ∈ ks, k.content s = k.content s') → s = s'

@[simp] theorem rotationName_inj {a b : Rotation} : rotationName a = rotationName b ↔ a = b := by
  cases a <;> cases b <;> decide

@[simp] theorem tlsName_inj {a b : SmtpTls} : tlsName a = tlsName b ↔ a = b := by
  cases a <;> cases b <;> decide

@[simp] theorem sinkName_inj {a b : SinkKind} : sinkName a = sinkName b ↔ a = b := by
  cases a <;> cases b <;> decide

@[simp] theorem pathText_inj {a b : Path} : a.text = b.text ↔ a = b := by
  constructor
  · intro same
    cases a
    cases b
    exact congrArg Path.mk same
  · rintro rfl
    rfl

@[simp] theorem strings_inj {a b : List String} : a.map Value.string = b.map Value.string ↔ a = b :=
  List.map_inj_right fun _ _ same => Value.string.inj same

@[simp] theorem string?_inj {a b : Option String} :
    a.map Value.string = b.map Value.string ↔ a = b :=
  Option.map_inj_right fun _ _ => Value.string.inj

@[simp] theorem pathText?_inj {a b : Option Path} :
    a.map (Value.string ∘ Path.text) = b.map (Value.string ∘ Path.text) ↔ a = b :=
  Option.map_inj_right fun _ _ same => pathText_inj.mp (Value.string.inj same)

theorem determine_server : Determine serverKeys := by
  rintro ⟨⟩ ⟨⟩ same
  simpa [serverKeys, Int.natCast_inj] using same

theorem determine_log : Determine logKeys := by
  rintro ⟨⟩ ⟨⟩ same
  simpa [logKeys, Int.natCast_inj] using same

theorem determine_smtp : Determine smtpKeys := by
  rintro ⟨⟩ ⟨⟩ same
  simpa [smtpKeys, Int.natCast_inj] using same

theorem determine_sound : Determine soundKeys := by
  rintro ⟨⟩ ⟨⟩ same
  simpa [soundKeys] using same

theorem determine_webhook : Determine webhookKeys := by
  rintro ⟨⟩ ⟨⟩ same
  simpa [webhookKeys, Int.natCast_inj] using same

theorem determine_daemon : Determine daemonKeys := by
  rintro ⟨⟩ ⟨⟩ same
  simpa [daemonKeys] using same

theorem determine_client : Determine clientKeys := by
  rintro ⟨⟩ ⟨⟩ same
  simpa [clientKeys, Int.natCast_inj] using same

theorem Determine.under {ks : List (Key τ)} (h : Determine ks) {name : String} {get : σ → τ}
    {s s' : σ} (same : ∀ k ∈ ks.map (Key.under name get), k.content s = k.content s') :
    get s = get s' :=
  h fun _ hk => same _ (List.mem_map_of_mem hk)

theorem determine_mail : Determine mailKeys := by
  intro s s' same
  simp only [mailKeys, List.forall_mem_append] at same
  have smtp := determine_smtp.under same.2
  obtain ⟨⟩ := s
  obtain ⟨⟩ := s'
  simp only at smtp
  simpa [smtp] using same.1

theorem determine_delivery : Determine deliveryKeys := by
  intro s s' same
  simp only [deliveryKeys, List.forall_mem_cons, List.forall_mem_append] at same
  obtain ⟨sink, ⟨mail, sound⟩, webhook⟩ := same
  have mail := determine_mail.under mail
  have sound := determine_sound.under sound
  have webhook := determine_webhook.under webhook
  obtain ⟨⟩ := s
  obtain ⟨⟩ := s'
  simp only at mail sound webhook
  simpa [mail, sound, webhook] using sink

theorem determine_keys : Determine keys := by
  intro c d same
  simp only [keys, List.forall_mem_append] at same
  obtain ⟨⟨⟨⟨server, log⟩, delivery⟩, daemon⟩, client⟩ := same
  have server := determine_server.under server
  have log := determine_log.under log
  have delivery := determine_delivery.under delivery
  have daemon := determine_daemon.under daemon
  have client := determine_client.under client
  obtain ⟨⟩ := c
  obtain ⟨⟩ := d
  simp only at server log delivery daemon client
  rw [server, log, delivery, daemon, client]

end EventRelay.Config
