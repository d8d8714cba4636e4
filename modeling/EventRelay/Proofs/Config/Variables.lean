import EventRelay.Proofs.Config.Fields
import EventRelay.Proofs.Config.Refusal
import Mathlib.Data.List.Nodup

namespace EventRelay.Config

open Toml (Value)
open Text (max16 max64)

variable {σ τ α : Type}

/-- What the settings hold under a path of keys. -/
def held (c : Config) (path : List String) : Option Value :=
  (keys.find? (·.path == path)).bind (·.content c)

theorem nodup_paths : (keys.map Key.path).Nodup := by decide +kernel

theorem held_path (c : Config) {k : Key Config} (hk : k ∈ keys) : c.held k.path = k.content c := by
  have there : (keys.find? (·.path == k.path)).isSome :=
    List.find?_isSome.mpr ⟨k, hk, beq_self_eq_true _⟩
  obtain ⟨k', found⟩ := Option.isSome_iff_exists.mp there
  have same : k'.path = k.path := by simpa using List.find?_some found
  obtain rfl := List.inj_on_of_nodup_map nodup_paths (List.mem_of_find?_eq_some found) hk same
  rw [held, found, Option.bind_some]

theorem held_of_unknown (c : Config) {path : List String} (unknown : path ∉ keys.map Key.path) :
    c.held path = none := by
  rw [held, List.find?_eq_none.mpr, Option.bind_none]
  intro k hk same
  exact unknown (List.mem_map.mpr ⟨k, hk, beq_iff_eq.mp same⟩)

theorem eq_of_held {c d : Config} (same : ∀ path, c.held path = d.held path) : c = d :=
  determine_keys fun k hk => by rw [← held_path c hk, ← held_path d hk, same]

def portPath : List String := ["server", "port"]

theorem held_portPath (c : Config) : c.held portPath = some (.integer c.server.port) :=
  held_path c (k := Key.under "server" (·.server) (.nat "port" max16 (·.port))) <| by
    simp [keys, serverKeys]

/-- One of the keys is at the path, and setting it changes what is held under it and nothing else. -/
structure Sets (ks : List (Key σ)) (path : List String) (set : α → σ → σ) (shown : α → Value) :
    Prop where
  known : path ∈ ks.map Key.path
  content : ∀ k ∈ ks, ∀ a s, k.content (set a s) =
    if k.path = path then some (shown a) else k.content s

section

variable {path : List String} {shown : α → Value}

theorem Sets.under {set : α → τ → τ} {inner : List (Key τ)} (h : Sets inner path set shown)
    {ks : List (Key σ)} {name : String} (get : σ → τ) (modify : (τ → τ) → σ → σ)
    (there : ∀ k ∈ inner.map (Key.under name get), k ∈ ks)
    (all : ∀ k ∈ ks, k ∈ inner.map (Key.under name get) ∨
      k.name ≠ name ∧ ∀ f s, k.content (modify f s) = k.content s)
    (same : ∀ f s, get (modify f s) = f (get s)) :
    Sets ks (name :: path) (fun a => modify (set a)) shown := by
  constructor
  · obtain ⟨k, hk, rfl⟩ := List.mem_map.mp h.known
    exact List.mem_map.mpr ⟨_, there _ (List.mem_map_of_mem hk), rfl⟩
  · intro k hk a s
    rcases all k hk with inside | ⟨other, keeps⟩
    · obtain ⟨k, within, rfl⟩ := List.mem_map.mp inside
      have path : ((k.under name get).path = name :: path) = (k.path = path) := by
        simp [Key.path]
      simp only [path]
      change k.content (get (modify (set a) s)) = _
      rw [same, h.content k within]
      rfl
    · have elsewhere : k.path ≠ name :: path := fun here => other (List.cons.inj here).1
      rw [if_neg elsewhere, keeps]

theorem Sets.held {set : α → Config → Config} (h : Sets keys path set shown) (a : α) (c : Config)
    (other : List String) :
    (set a c).held other = if other = path then some (shown a) else c.held other := by
  by_cases known : other ∈ keys.map Key.path
  · obtain ⟨k, hk, rfl⟩ := List.mem_map.mp known
    rw [held_path _ hk, held_path _ hk, h.content k hk]
  · rw [held_of_unknown _ known, held_of_unknown _ known, if_neg]
    rintro rfl
    exact known h.known

theorem sets_server {set : α → ServerConfig → ServerConfig} (h : Sets serverKeys path set shown) :
    Sets keys ("server" :: path) (fun a => setServer (set a)) shown :=
  h.under (·.server) setServer (forall_mem_keys.mp fun _ hk => hk).1
    (forall_mem_keys.mpr ⟨fun _ hk => .inl hk, elsewhere (by decide) fun _ _ => rfl,
      elsewhere (by decide) fun _ _ => rfl, elsewhere (by decide) fun _ _ => rfl,
      elsewhere (by decide) fun _ _ => rfl⟩)
    fun _ _ => rfl

theorem sets_log {set : α → LogConfig → LogConfig} (h : Sets logKeys path set shown) :
    Sets keys ("log" :: path) (fun a => setLog (set a)) shown :=
  h.under (·.log) setLog (forall_mem_keys.mp fun _ hk => hk).2.1
    (forall_mem_keys.mpr ⟨elsewhere (by decide) fun _ _ => rfl, fun _ hk => .inl hk,
      elsewhere (by decide) fun _ _ => rfl, elsewhere (by decide) fun _ _ => rfl,
      elsewhere (by decide) fun _ _ => rfl⟩)
    fun _ _ => rfl

theorem sets_delivery {set : α → DeliveryConfig → DeliveryConfig}
    (h : Sets deliveryKeys path set shown) :
    Sets keys ("delivery" :: path) (fun a => setDelivery (set a)) shown :=
  h.under (·.delivery) setDelivery (forall_mem_keys.mp fun _ hk => hk).2.2.1
    (forall_mem_keys.mpr ⟨elsewhere (by decide) fun _ _ => rfl,
      elsewhere (by decide) fun _ _ => rfl, fun _ hk => .inl hk,
      elsewhere (by decide) fun _ _ => rfl, elsewhere (by decide) fun _ _ => rfl⟩)
    fun _ _ => rfl

theorem sets_daemon {set : α → DaemonConfig → DaemonConfig} (h : Sets daemonKeys path set shown) :
    Sets keys ("daemon" :: path) (fun a c => { c with daemon := set a c.daemon }) shown :=
  h.under Config.daemon (fun f (c : Config) => { c with daemon := f c.daemon })
    (forall_mem_keys.mp fun _ hk => hk).2.2.2.1
    (forall_mem_keys.mpr ⟨elsewhere (by decide) fun _ _ => rfl,
      elsewhere (by decide) fun _ _ => rfl, elsewhere (by decide) fun _ _ => rfl,
      fun _ hk => .inl hk, elsewhere (by decide) fun _ _ => rfl⟩)
    fun _ _ => rfl

theorem sets_client {set : α → ClientConfig → ClientConfig} (h : Sets clientKeys path set shown) :
    Sets keys ("client" :: path) (fun a => setClient (set a)) shown :=
  h.under (·.client) setClient (forall_mem_keys.mp fun _ hk => hk).2.2.2.2
    (forall_mem_keys.mpr ⟨elsewhere (by decide) fun _ _ => rfl,
      elsewhere (by decide) fun _ _ => rfl, elsewhere (by decide) fun _ _ => rfl,
      elsewhere (by decide) fun _ _ => rfl, fun _ hk => .inl hk⟩)
    fun _ _ => rfl

theorem sets_mail {set : α → MailConfig → MailConfig} (h : Sets mailKeys path set shown) :
    Sets keys ("delivery" :: "mail" :: path) (fun a => setMail (set a)) shown :=
  sets_delivery <| h.under DeliveryConfig.mail (fun f (d : DeliveryConfig) => { d with mail := f d.mail })
    (forall_mem_deliveryKeys.mp fun _ hk => hk).2.1
    (forall_mem_deliveryKeys.mpr ⟨.inr ⟨by decide, fun _ _ => rfl⟩, fun _ hk => .inl hk,
      elsewhere (by decide) fun _ _ => rfl, elsewhere (by decide) fun _ _ => rfl⟩)
    fun _ _ => rfl

theorem sets_sound {set : α → SoundConfig → SoundConfig} (h : Sets soundKeys path set shown) :
    Sets keys ("delivery" :: "sound" :: path) (fun a => setSound (set a)) shown :=
  sets_delivery <| h.under DeliveryConfig.sound (fun f (d : DeliveryConfig) => { d with sound := f d.sound })
    (forall_mem_deliveryKeys.mp fun _ hk => hk).2.2.1
    (forall_mem_deliveryKeys.mpr ⟨.inr ⟨by decide, fun _ _ => rfl⟩,
      elsewhere (by decide) fun _ _ => rfl, fun _ hk => .inl hk,
      elsewhere (by decide) fun _ _ => rfl⟩)
    fun _ _ => rfl

theorem sets_webhook {set : α → WebhookConfig → WebhookConfig}
    (h : Sets webhookKeys path set shown) :
    Sets keys ("delivery" :: "webhook" :: path)
      (fun a => setDelivery fun d => { d with webhook := set a d.webhook }) shown :=
  sets_delivery <| h.under DeliveryConfig.webhook (fun f (d : DeliveryConfig) => { d with webhook := f d.webhook })
    (forall_mem_deliveryKeys.mp fun _ hk => hk).2.2.2
    (forall_mem_deliveryKeys.mpr ⟨.inr ⟨by decide, fun _ _ => rfl⟩,
      elsewhere (by decide) fun _ _ => rfl, elsewhere (by decide) fun _ _ => rfl,
      fun _ hk => .inl hk⟩)
    fun _ _ => rfl

theorem sets_smtp {set : α → SmtpConfig → SmtpConfig} (h : Sets smtpKeys path set shown) :
    Sets keys ("delivery" :: "mail" :: "smtp" :: path) (fun a => setSmtp (set a)) shown :=
  sets_mail <| h.under MailConfig.smtp (fun f (m : MailConfig) => { m with smtp := f m.smtp })
    (fun _ hk => List.mem_append_right _ hk)
    (List.forall_mem_append.mpr ⟨by simp, fun _ hk => .inl hk⟩)
    fun _ _ => rfl

end

inductive Reading
  | text
  | nat (max : Nat)
  | word (meanings : List (String × Value))
  | recipients
  | host (portName : String)

def Reading.value? (env : Environment) (serverPort : Nat) : Reading → String → Option Value
  | .text, s => some (.string s)
  | .nat max, s => (Text.parseNat? max (Text.trim s)).map fun n : Nat => .integer n
  | .word meanings, s => meanings.lookup (Text.caseless s)
  | .recipients, s => some (.array ((splitRecipients s).map .string))
  | .host portName, name =>
    ((env portName).elim (some serverPort) fun s => Text.parseNat? max16 (Text.trim s)).map
      fun port => .string s!"{name}:{port}"

structure Variable where
  name : String
  path : List String
  reading : Reading

namespace Variable

def portName? (v : Variable) : Option String :=
  match v.reading with
  | .host portName => some portName
  | _ => none

def names (v : Variable) : List String := v.name :: v.portName?.toList

def FailsWith (v : Variable) (env : Environment) (serverPort : Nat) (f : Failure) : Prop :=
  (∃ s, env v.name = some s ∧ v.reading.value? env serverPort s = none) ∧
    ∃ n ∈ v.names, ∃ s, env n = some s ∧ f = .invalidValue n s

end Variable

def switchMeanings : List (String × Value) :=
  [("1", .boolean true), ("true", .boolean true), ("yes", .boolean true), ("on", .boolean true),
    ("0", .boolean false), ("false", .boolean false), ("no", .boolean false),
    ("off", .boolean false)]

def rotationMeanings : List (String × Value) :=
  [("size", .string "size"), ("lines", .string "lines"), ("count", .string "lines")]

def sinkMeanings : List (String × Value) :=
  [("mail", .string "mail"), ("sound", .string "sound"), ("webhook", .string "webhook"),
    ("discord", .string "webhook")]

def tlsMeanings : List (String × Value) :=
  [("wrapper", .string "wrapper"), ("ssl", .string "wrapper"), ("starttls", .string "starttls"),
    ("none", .string "none")]

def knownVariables : List Variable :=
  [⟨"NF_BIND", ["server", "bind"], .text⟩,
    ⟨"NF_PORT", ["server", "port"], .nat max16⟩,
    ⟨"NF_BUFFER_SIZE", ["server", "buffer_size"], .nat max64⟩,
    ⟨"NF_READ_TIMEOUT_MS", ["server", "read_timeout_ms"], .nat max64⟩,
    ⟨"NF_CONCURRENT", ["server", "concurrent"], .word switchMeanings⟩,
    ⟨"NF_PID_FILE", ["daemon", "pid_file"], .text⟩,
    ⟨"NF_LOG_FILE", ["log", "path"], .text⟩,
    ⟨"NF_MAX_LOG_SIZE", ["log", "max_bytes"], .nat max64⟩,
    ⟨"NF_MAX_LOG_LINES", ["log", "max_lines"], .nat max64⟩,
    ⟨"NF_CLEAN_STRATEGY", ["log", "strategy"], .word rotationMeanings⟩,
    ⟨"NF_DELIVERY", ["delivery", "sink"], .word sinkMeanings⟩,
    ⟨"NF_ENABLE_MAIL", ["delivery", "mail", "enabled"], .word switchMeanings⟩,
    ⟨"NF_SMTP_HOST", ["delivery", "mail", "smtp", "host"], .text⟩,
    ⟨"NF_SMTP_PORT", ["delivery", "mail", "smtp", "port"], .nat max16⟩,
    ⟨"NF_SMTP_TLS", ["delivery", "mail", "smtp", "tls"], .word tlsMeanings⟩,
    ⟨"NF_SMTP_USER", ["delivery", "mail", "smtp", "user"], .text⟩,
    ⟨"NF_SMTP_PASS", ["delivery", "mail", "smtp", "password"], .text⟩,
    ⟨"NF_MAIL_FROM", ["delivery", "mail", "from"], .text⟩,
    ⟨"NF_MAIL_TO", ["delivery", "mail", "to"], .recipients⟩,
    ⟨"NF_MAIL_COMMAND", ["delivery", "mail", "command"], .text⟩,
    ⟨"NF_ENABLE_SOUND", ["delivery", "sound", "enabled"], .word switchMeanings⟩,
    ⟨"NF_SOUND_FILE", ["delivery", "sound", "file"], .text⟩,
    ⟨"NF_SOUND_PLAYER", ["delivery", "sound", "player"], .text⟩,
    ⟨"NF_SAY_MESSAGE", ["delivery", "sound", "say_message"], .word switchMeanings⟩,
    ⟨"NF_WEBHOOK_URL", ["delivery", "webhook", "url"], .text⟩,
    ⟨"NOTIFICATION_SERVER_HOST", ["client", "primary"], .host "NOTIFICATION_SERVER_PORT"⟩,
    ⟨"NOTIFICATION_SERVER_BACKUP_HOST", ["client", "backup"],
      .host "NOTIFICATION_SERVER_BACKUP_PORT"⟩]

/--
The override sets the field of the variable to what its text stands for, and no other field; or it
fails if the text stands for nothing. It does not look at other variables.
-/
structure Override.Follows (o : Override) (v : Variable) : Prop where
  name : o.name = v.name
  congr : ∀ {env env' : Environment} {s c}, (∀ n ∈ v.names, env n = env' n) →
    o.apply env s c = o.apply env' s c
  sets : ∀ {env : Environment} {s c value}, v.reading.value? env c.server.port s = some value →
    ∃ c', o.apply env s c = .ok c' ∧ v.reading.value? env c'.server.port s = some value ∧
      ∀ path, c'.held path = if path = v.path then some value else c.held path
  fails : ∀ {env : Environment} {s c}, env v.name = some s →
    v.reading.value? env c.server.port s = none →
    ∃ f, o.apply env s c = .error f ∧ v.FailsWith env c.server.port f

section

variable {name : String} {path : List String} {set : α → Config → Config} {shown : α → Value}

theorem follows_own {reading : Reading} (h : Sets keys path set shown) (read : String → Outcome α)
    (reads : ∀ env port s, reading.value? env port s = (read s).toOption.map shown)
    (blames : ∀ s f, read s = .error f → f = .invalidValue name s) :
    Override.Follows ⟨name, fun _ s c => (read s).map (set · c)⟩ ⟨name, path, reading⟩ := by
  refine ⟨rfl, fun _ => rfl, fun {env s c value} stands => ?_, fun {env s c} there bad => ?_⟩
  · simp only [reads] at stands ⊢
    cases taken : read s with
    | error f =>
      rw [taken] at stands
      cases stands
    | ok a =>
      rw [taken] at stands
      cases stands
      exact ⟨set a c, rfl, rfl, h.held a c⟩
  · cases taken : read s with
    | error f =>
      exact ⟨f, by simp only [taken, Except.map], ⟨s, there, bad⟩, name, List.mem_cons_self, s, there,
        blames s f taken⟩
    | ok a =>
      rw [reads, taken] at bad
      cases bad

theorem follows_text {set : String → Config → Config} (h : Sets keys path set .string) :
    (Override.text name set).Follows ⟨name, path, .text⟩ :=
  follows_own h .ok (fun _ _ _ => rfl) fun _ _ failed => nomatch failed

theorem follows_recipients {set : String → Config → Config}
    (h : Sets keys path set fun s => .array ((splitRecipients s).map .string)) :
    (Override.text name set).Follows ⟨name, path, .recipients⟩ :=
  follows_own h .ok (fun _ _ _ => rfl) fun _ _ failed => nomatch failed

theorem parseNat_eq_error {max : Nat} {s : String} {f : Failure}
    (failed : parseNat max name s = .error f) : f = .invalidValue name s := by
  unfold parseNat at failed
  split at failed <;> cases failed
  rfl

theorem toOption_parseNat (max : Nat) (name s : String) :
    (parseNat max name s).toOption = Text.parseNat? max (Text.trim s) := by
  rw [parseNat]
  cases Text.parseNat? max (Text.trim s) <;> rfl

theorem follows_nat {max : Nat} {set : Nat → Config → Config}
    (h : Sets keys path set fun n => .integer n) :
    (Override.nat name max set).Follows ⟨name, path, .nat max⟩ :=
  follows_own h (parseNat max name) (fun _ _ s => by rw [toOption_parseNat, Reading.value?])
    fun _ _ => parseNat_eq_error

theorem lookup_map_snd (names : List (String × α)) (shown : α → Value) (word : String) :
    (names.map fun p => (p.1, shown p.2)).lookup word = (names.lookup word).map shown := by
  induction names with
  | nil => rfl
  | cons p names ih =>
    rw [List.map_cons, List.lookup_cons, List.lookup_cons, ih]
    cases word == p.1 <;> rfl

theorem follows_choice {names : List (String × α)} {meanings : List (String × Value)}
    (shown : α → Value) (h : Sets keys path set shown)
    (same : meanings = names.map fun p => (p.1, shown p.2)) :
    (Override.choice name names set).Follows ⟨name, path, .word meanings⟩ := by
  refine follows_own h (parseChoice names name) (fun _ _ s => ?_) fun s f failed => ?_
  · rw [Reading.value?, same, lookup_map_snd, parseChoice]
    cases names.lookup (Text.caseless s) <;> rfl
  · unfold parseChoice at failed
    split at failed <;> cases failed
    rfl

theorem follows_host {portName : String} {set : String → Config → Config}
    (h : Sets keys path set .string) (same : ∀ address c, (set address c).server = c.server) :
    (Override.host name portName set).Follows ⟨name, path, .host portName⟩ := by
  have settled {env : Environment} {s : String} {c : Config} {port : Nat}
      (found : (env portName).elim (some c.server.port)
        (fun p => Text.parseNat? max16 (Text.trim p)) = some port) :
      (Override.host name portName set).apply env s c = .ok (set s!"{s}:{port}" c) := by
    rw [Override.host]
    dsimp only
    cases given : env portName with
    | none =>
      rw [given] at found
      cases found
      rfl
    | some p =>
      rw [given, Option.elim_some] at found
      simp only [parseNat, found]
      rfl
  have read : portName ∈ (Variable.mk name path (.host portName)).names :=
    List.mem_cons_of_mem _ List.mem_cons_self
  refine ⟨rfl, fun agree => ?_, fun {env s c value} stands => ?_, fun {env s c} there bad => ?_⟩
  · simp only [Override.host, agree portName read]
  · obtain ⟨port, found, rfl⟩ := Option.map_eq_some_iff.mp stands
    refine ⟨_, settled found, ?_, h.held _ c⟩
    rw [same]
    exact stands
  · have unread := Option.map_eq_none_iff.mp bad
    cases given : env portName with
    | none =>
      rw [given] at unread
      cases unread
    | some p =>
      rw [given, Option.elim_some] at unread
      refine ⟨.invalidValue portName p, ?_, ⟨s, there, bad⟩, portName, read, p, given, rfl⟩
      rw [Override.host]
      simp only [given, parseNat, unread]
      rfl

end

theorem follows_overrides : List.Forall₂ Override.Follows overrides knownVariables := by
  have pidFile : Sets daemonKeys ["pid_file"] (fun v (s : DaemonConfig) => { s with pidFile := ⟨v⟩ })
      .string := by
    constructor <;> simp [daemonKeys, Key.path]
  have url : Sets webhookKeys ["url"] (fun v (s : WebhookConfig) => { s with url := some v })
      .string := by
    constructor <;> simp [webhookKeys, Key.path]
  refine .cons (follows_text (sets_server ?_)) <|
    .cons (follows_nat (sets_server ?_)) <|
    .cons (follows_nat (sets_server ?_)) <|
    .cons (follows_nat (sets_server ?_)) <|
    .cons (follows_choice .boolean (sets_server ?_) rfl) <|
    .cons (follows_text (sets_daemon pidFile)) <|
    .cons (follows_text (sets_log ?_)) <|
    .cons (follows_nat (sets_log ?_)) <|
    .cons (follows_nat (sets_log ?_)) <|
    .cons (follows_choice (.string ∘ rotationName) (sets_log ?_) rfl) <|
    .cons (follows_choice (.string ∘ sinkName) (sets_delivery ?_) rfl) <|
    .cons (follows_choice .boolean (sets_mail ?_) rfl) <|
    .cons (follows_text (sets_smtp ?_)) <|
    .cons (follows_nat (sets_smtp ?_)) <|
    .cons (follows_choice (.string ∘ tlsName) (sets_smtp ?_) rfl) <|
    .cons (follows_text (sets_smtp ?_)) <|
    .cons (follows_text (sets_smtp ?_)) <|
    .cons (follows_text (sets_mail ?_)) <|
    .cons (follows_recipients (sets_mail ?_)) <|
    .cons (follows_text (sets_mail ?_)) <|
    .cons (follows_choice .boolean (sets_sound ?_) rfl) <|
    .cons (follows_text (sets_sound ?_)) <|
    .cons (follows_text (sets_sound ?_)) <|
    .cons (follows_choice .boolean (sets_sound ?_) rfl) <|
    .cons (follows_text (sets_webhook url)) <|
    .cons (follows_host (sets_client ?_) fun _ _ => rfl) <|
    .cons (follows_host (sets_client ?_) fun _ _ => rfl) .nil
  all_goals
    constructor <;>
    simp [serverKeys, logKeys, deliveryKeys, mailKeys, smtpKeys, soundKeys, clientKeys, Key.path]

end EventRelay.Config
