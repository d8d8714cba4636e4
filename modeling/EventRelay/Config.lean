import EventRelay.Path

namespace EventRelay

structure ServerConfig where
  bind : String := "0.0.0.0"
  port : Nat := 9123
  bufferSize : Nat := 65536
  readTimeoutMs : Nat := 1000
  deliveryTimeoutMs : Nat := 10000
  concurrent : Bool := false
  pollIntervalMs : Nat := 100
  deriving DecidableEq, Repr

inductive Rotation
  | size
  | lines
  deriving DecidableEq, Repr

structure LogConfig where
  path : Path := ⟨"notification_server.log"⟩
  rotation : Rotation := .size
  maxBytes : Nat := 10485760
  maxLines : Nat := 10000
  deriving DecidableEq, Repr

inductive SinkKind
  | mail
  | sound
  | webhook
  deriving DecidableEq, Repr

inductive SmtpTls
  | wrapper
  | startTls
  | none
  deriving DecidableEq, Repr

structure SmtpConfig where
  host : String := ""
  port : Nat := 0
  tls : SmtpTls := .wrapper
  user : String := ""
  password : Option String := .none
  deriving DecidableEq, Repr

structure MailConfig where
  enabled : Bool := true
  sender : String := "notification@example.com"
  recipients : List String := ["admin@example.com"]
  smtp : SmtpConfig := { host := "smtp.example.com", port := 465 }
  command : String := "sendmail"
  args : List String := ["-t", "-oi"]
  deriving DecidableEq, Repr

structure SoundConfig where
  enabled : Bool := true
  file : Path := ⟨"/System/Library/Sounds/Ping.aiff"⟩
  player : String := "afplay"
  sayMessage : Bool := false
  sayCommand : String := "say"
  deriving DecidableEq, Repr

structure WebhookConfig where
  url : Option String := none
  timeoutSecs : Nat := 10
  deriving DecidableEq, Repr

structure DeliveryConfig where
  sink : SinkKind := .mail
  mail : MailConfig := {}
  sound : SoundConfig := {}
  webhook : WebhookConfig := {}
  deriving DecidableEq, Repr

structure DaemonConfig where
  pidFile : Path := ⟨"/tmp/notification_server.pid"⟩
  logLevel : String := "info"
  diagnosticLog : Option Path := none
  workingDirectory : Path := ⟨"/"⟩
  deriving DecidableEq, Repr

structure ClientConfig where
  primary : Option String := none
  backup : Option String := none
  connectTimeoutMs : Nat := 1000
  sendTimeoutMs : Nat := 1000
  receiveTimeoutMs : Nat := 1000
  awaitAck : Bool := true
  deriving DecidableEq, Repr

structure Config where
  server : ServerConfig := {}
  log : LogConfig := {}
  delivery : DeliveryConfig := {}
  daemon : DaemonConfig := {}
  client : ClientConfig := {}
  deriving DecidableEq, Repr

def ServerConfig.listenAddress (c : ServerConfig) : String := s!"{c.bind}:{c.port}"

namespace Config

def canonical (c : Config) : Config :=
  { c with
    log := { c.log with path := c.log.path.canonical }
    delivery := { c.delivery with
      sound := { c.delivery.sound with file := c.delivery.sound.file.canonical } }
    daemon := { c.daemon with
      pidFile := c.daemon.pidFile.canonical
      diagnosticLog := c.daemon.diagnosticLog.map Path.canonical
      workingDirectory := c.daemon.workingDirectory.canonical } }

def same (c d : Config) : Bool := c.canonical == d.canonical

def resolvePaths (c : Config) (base : Path) : Config :=
  { c with
    log := { c.log with path := base.join c.log.path }
    daemon := { c.daemon with
      pidFile := base.join c.daemon.pidFile
      diagnosticLog := c.daemon.diagnosticLog.map base.join } }

def fallbackDiagnosticLog : Path := ⟨"notify-relay.log"⟩

def diagnosticLogPath (c : Config) (background : Bool) : Option Path :=
  match c.daemon.diagnosticLog with
  | some path => some path
  | none =>
    if background then some ((c.log.path.parent?.getD ⟨"."⟩).join fallbackDiagnosticLog) else none

end Config

end EventRelay
