import EventRelay.Config
import EventRelay.Failure
import EventRelay.Text.Number
import EventRelay.Text.Split

namespace EventRelay

abbrev Environment := String → Option String

namespace Config

def parseNat (max : Nat) (key value : String) : Outcome Nat :=
  match Text.parseNat? max (Text.trim value) with
  | some n => .ok n
  | none => .error (.invalidValue key value)

def parseChoice (names : List (String × α)) (key value : String) : Outcome α :=
  match names.lookup (Text.caseless value) with
  | some a => .ok a
  | none => .error (.invalidValue key value)

def flagNames : List (String × Bool) :=
  [("1", true), ("true", true), ("yes", true), ("on", true),
    ("0", false), ("false", false), ("no", false), ("off", false)]

def isRecipientSeparator (c : Char) : Bool := c == ';' || c == ','

def splitRecipients (value : String) : List String :=
  ((Text.splitAt isRecipientSeparator value.toList).map Text.trimList).filter (!·.isEmpty)
    |>.map String.ofList

structure Override where
  name : String
  apply : (env : Environment) → (value : String) → Config → Outcome Config

def Override.text (name : String) (set : String → Config → Config) : Override :=
  ⟨name, fun _ v c => .ok (set v c)⟩

def Override.nat (name : String) (max : Nat) (set : Nat → Config → Config) : Override :=
  ⟨name, fun _ v c => (parseNat max name v).map (set · c)⟩

def Override.choice (name : String) (names : List (String × α)) (set : α → Config → Config) :
    Override :=
  ⟨name, fun _ v c => (parseChoice names name v).map (set · c)⟩

def Override.host (name portName : String) (set : String → Config → Config) : Override :=
  ⟨name, fun env host c => do
    let port ← match env portName with
      | some p => parseNat Text.max16 portName p
      | none => .ok c.server.port
    .ok (set s!"{host}:{port}" c)⟩

def setServer (f : ServerConfig → ServerConfig) (c : Config) : Config :=
  { c with server := f c.server }

def setLog (f : LogConfig → LogConfig) (c : Config) : Config := { c with log := f c.log }

def setDelivery (f : DeliveryConfig → DeliveryConfig) (c : Config) : Config :=
  { c with delivery := f c.delivery }

def setMail (f : MailConfig → MailConfig) : Config → Config :=
  setDelivery fun d => { d with mail := f d.mail }

def setSmtp (f : SmtpConfig → SmtpConfig) : Config → Config :=
  setMail fun m => { m with smtp := f m.smtp }

def setSound (f : SoundConfig → SoundConfig) : Config → Config :=
  setDelivery fun d => { d with sound := f d.sound }

def setClient (f : ClientConfig → ClientConfig) (c : Config) : Config :=
  { c with client := f c.client }

def rotationWords : List (String × Rotation) :=
  [("size", .size), ("lines", .lines), ("count", .lines)]

def sinkWords : List (String × SinkKind) :=
  [("mail", .mail), ("sound", .sound), ("webhook", .webhook), ("discord", .webhook)]

def tlsWords : List (String × SmtpTls) :=
  [("wrapper", .wrapper), ("ssl", .wrapper), ("starttls", .startTls), ("none", .none)]

open Text (max16 max64) in
def overrides : List Override :=
  [.text "NF_BIND" fun v => setServer ({ · with bind := v }),
    .nat "NF_PORT" max16 fun v => setServer ({ · with port := v }),
    .nat "NF_BUFFER_SIZE" max64 fun v => setServer ({ · with bufferSize := v }),
    .nat "NF_READ_TIMEOUT_MS" max64 fun v => setServer ({ · with readTimeoutMs := v }),
    .choice "NF_CONCURRENT" flagNames fun v => setServer ({ · with concurrent := v }),
    .text "NF_PID_FILE" fun v c => { c with daemon := { c.daemon with pidFile := ⟨v⟩ } },
    .text "NF_LOG_FILE" fun v => setLog ({ · with path := ⟨v⟩ }),
    .nat "NF_MAX_LOG_SIZE" max64 fun v => setLog ({ · with maxBytes := v }),
    .nat "NF_MAX_LOG_LINES" max64 fun v => setLog ({ · with maxLines := v }),
    .choice "NF_CLEAN_STRATEGY" rotationWords fun v => setLog ({ · with rotation := v }),
    .choice "NF_DELIVERY" sinkWords fun v => setDelivery ({ · with sink := v }),
    .choice "NF_ENABLE_MAIL" flagNames fun v => setMail ({ · with enabled := v }),
    .text "NF_SMTP_HOST" fun v => setSmtp ({ · with host := v }),
    .nat "NF_SMTP_PORT" max16 fun v => setSmtp ({ · with port := v }),
    .choice "NF_SMTP_TLS" tlsWords fun v => setSmtp ({ · with tls := v }),
    .text "NF_SMTP_USER" fun v => setSmtp ({ · with user := v }),
    .text "NF_SMTP_PASS" fun v => setSmtp ({ · with password := some v }),
    .text "NF_MAIL_FROM" fun v => setMail ({ · with sender := v }),
    .text "NF_MAIL_TO" fun v => setMail ({ · with recipients := splitRecipients v }),
    .text "NF_MAIL_COMMAND" fun v => setMail ({ · with command := v }),
    .choice "NF_ENABLE_SOUND" flagNames fun v => setSound ({ · with enabled := v }),
    .text "NF_SOUND_FILE" fun v => setSound ({ · with file := ⟨v⟩ }),
    .text "NF_SOUND_PLAYER" fun v => setSound ({ · with player := v }),
    .choice "NF_SAY_MESSAGE" flagNames fun v => setSound ({ · with sayMessage := v }),
    .text "NF_WEBHOOK_URL" fun v => setDelivery fun d => { d with webhook.url := some v },
    .host "NOTIFICATION_SERVER_HOST" "NOTIFICATION_SERVER_PORT"
      fun v => setClient ({ · with primary := some v }),
    .host "NOTIFICATION_SERVER_BACKUP_HOST" "NOTIFICATION_SERVER_BACKUP_PORT"
      fun v => setClient ({ · with backup := some v })]

/-- The settings after the variables up to the first bad one, and the failure if there is one. -/
def override (env : Environment) : List Override → Config → Config × Option Failure
  | [], c => (c, none)
  | o :: os, c =>
    match env o.name with
    | none => override env os c
    | some value =>
      match o.apply env value c with
      | .ok c => override env os c
      | .error e => (c, some e)

def applyEnvironment (c : Config) (env : Environment) : Config × Option Failure :=
  override env overrides c

def withEnvironment (c : Config) (env : Environment) : Outcome Config :=
  match c.applyEnvironment env with
  | (c, none) => .ok c
  | (_, some e) => .error e

end Config

end EventRelay
