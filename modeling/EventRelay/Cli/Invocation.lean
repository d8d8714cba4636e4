import EventRelay.Cli.SendRequest
import EventRelay.Cli.Switches

namespace EventRelay.Cli

inductive Action
  | start (detach : Bool)
  | stop
  | status
  | send (r : SendRequest)
  | showConfig
  | init (force : Bool)
  deriving DecidableEq, Repr

structure Invocation where
  config : Option String
  verbose : Bool
  action : Action
  deriving DecidableEq, Repr

def configVariable : String := "NOTIFY_RELAY_CONFIG"

def commonSwitches : List Switch :=
  [{ long := "config", short := some 'c', kind := .value false, fallback := some configVariable },
    .flag "verbose" (some 'v'),
    { long := "help", short := some 'h', kind := .help }]

def command (name : String) (switches : List Switch := []) (required : List String := [])
    (subcommands : List Command := []) : Command :=
  .mk name (switches ++ commonSwitches) required subcommands

def sendSwitches : List Switch :=
  [.text "program" (some 'p'), .text "title" (some 't'), .text "details" (some 'd'), .text "tag",
    .text "level" (some 'l'), .text "server", .text "backup", .flag "no-ack"]

def program : Command :=
  command "notify-relay" [{ long := "version", short := some 'V', kind := .version }] []
    [command "daemon" [] []
      [command "start" [.flag "detach" (some 'd')], command "stop", command "status"],
    command "send" sendSwitches ["program", "title"],
    command "config" [] [] [command "show"],
    command "init" [.flag "force" (some 'f')]]

def sendRequest (given : Given) : SendRequest :=
  { program := (given.lookup "program").getD ""
    title := (given.lookup "title").getD ""
    details := (given.lookup "details").getD ""
    tag := given.lookup "tag"
    level := (given.lookup "level").getD "info"
    server := given.lookup "server"
    backup := given.lookup "backup"
    noAck := (given.lookup "no-ack").isSome }

def action? : List (String × Given) → Option Action
  | [("daemon", _), ("start", given)] => some (.start (given.lookup "detach").isSome)
  | [("daemon", _), ("stop", _)] => some .stop
  | [("daemon", _), ("status", _)] => some .status
  | [("send", given)] => some (.send (sendRequest given))
  | [("config", _), ("show", _)] => some .showConfig
  | [("init", given)] => some (.init (given.lookup "force").isSome)
  | _ => none

def common (levels : List (String × Given)) (name : String) : Option String :=
  levels.reverse.findSome? fun (_, given) => given.lookup name

def Invocation.parse (args : List String) (vars : Variables := fun _ => none) :
    Except Usage Invocation := do
  let levels ← read program vars args
  match action? (levels.drop 1) with
  | none => throw .missingSubcommand
  | some action =>
    return {
      config := (common levels "config").orElse fun _ => vars configVariable
      verbose := (common levels "verbose").isSome
      action }

end EventRelay.Cli
