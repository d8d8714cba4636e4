import EventRelay.Cli.Execution
import EventRelay.Disk
import Std.Async
import Std.Sync.CancellationToken

/-!
The program itself: it takes what a command needs from the machine, has the command carried out and
brings the outcome back. It speaks to relays and clients over TCP; other programs, mail servers and
web servers are out of its reach, so that deliveries that need them fail.
-/

namespace EventRelay.Outside

open Std.Async Std.Async.TCP

def unreachable : String := "out of reach"

def ownPid : IO Nat := do
  try
    let line ← IO.FS.readFile "/proc/self/stat"
    return ((line.splitOn " ").head?.bind String.toNat?).getD 0
  catch _ => return 0

def isPresent (pid : Nat) : IO Bool := do
  return (← Disk.look (.ofNames ["proc", toString pid])).isSome

def processesFor (fs : FileSystem) (pidFile : Path) : IO Processes := do
  let self ← ownPid
  let named := ((PidFile.read fs pidFile).toOption.bind id).toList
  let present ← named.filterM isPresent
  return { self, present := fun pid => pid == self || present.contains pid }

def currentDirectory : IO Location := do
  return .ofNames (((← IO.currentDir).toString.splitOn "/").filter (!·.isEmpty))

def environment : IO Environment := do
  let all ← System.getEnv
  return all.get?

def secondsNow : IO Int := do return (← Std.Time.Timestamp.now).toSecondsSinceUnixEpoch.val

def around : IO Surroundings := do
  let host ← try System.getHostName catch _ => pure "localhost"
  return {
    host
    mailServer := fun _ _ _ _ => .error unreachable
    commands := fun _ _ _ => .notStarted unreachable
    starts := fun _ _ => .error unreachable
    webServers := fun _ _ _ => .failed [unreachable] }

def socketAddresses (address : String) : Async (Except String (List Std.Net.SocketAddress)) := do
  match parseAddress address with
  | .error e => return .error e.message
  | .ok (host, port) =>
    let port := port.toUInt16
    try
      let found ← DNS.getAddrInfo host (toString port)
      return .ok (found.toList.map fun
        | .v4 a => .v4 ⟨a, port⟩
        | .v6 a => .v6 ⟨a, port⟩)
    catch e => return .error e.toString

def within (ms : Nat) (action : Async α) : Async (Option α) := do
  let timer : Async (Option α) := do
    sleep (.ofNat ms)
    return none
  Async.race (some <$> action) timer

/-- What arrives until a line feed, more than `limit` bytes, the end of the connection or that of
the time; nothing if the program is told to stop. -/
partial def receive (socket : Socket.Client) (limit ms : Nat) (stop : Option (Selector Unit)) :
    Async (Option Incoming) := do
  let deadline := (← IO.monoMsNow) + ms
  let stopped : List (Selectable (Option (Option (Option ByteArray)))) :=
    stop.toList.map fun stop => .case stop fun _ => return none
  let rec go (got : Bytes) : Async (Option Incoming) := do
    if got.contains 10 ∨ limit < got.length then
      return some { reads := [.bytes got], staysOpen := true }
    let left := deadline - (← IO.monoMsNow)
    let others : List (Selectable (Option (Option (Option ByteArray)))) :=
      [.case (socket.recvSelector 65536) fun bytes => return some (some bytes),
        .case (← Selector.sleep (.ofNat left)) fun _ => return some none]
    let next ← Selectable.one (stopped ++ others).toArray
    match next with
    | none => return none
    | some none => return some { reads := [.bytes got], staysOpen := true }
    | some (some none) => return some { reads := [.bytes got] }
    | some (some (some bytes)) => go (got ++ bytes.toList)
  try go []
  catch e => return some { reads := [.fail false e.toString] }

def connectAny (causes : String) : List Std.Net.SocketAddress →
    Async (Except String Socket.Client)
  | [] => return .error causes
  | address :: rest => do
    try
      let socket ← Socket.Client.mk
      socket.connect address
      return .ok socket
    catch e => connectAny e.toString rest

def exchange (c : RelayClient) (socket : Socket.Client) (line : String) : Async Peer := do
  let written ← try
      let sent ← within c.sendTimeoutMs (socket.send line.toUTF8)
      pure (if sent.isSome then .taken else .stalled)
    catch e => pure (.broken e.toString)
  if written ≠ .taken ∨ !c.awaitAck then return { write := written }
  match ← receive socket Text.max32 c.receiveTimeoutMs none with
  | some { reads := [.bytes reply], staysOpen } =>
    return { reply, ending := if staysOpen then .silent else .closed }
  | _ => return { ending := .broken }

def attempt (c : RelayClient) (line address : String) : Async Connect := do
  let connected ← within c.connectTimeoutMs do
    match ← socketAddresses address with
    | .error cause => return .error cause
    | .ok addresses => connectAny unreachable addresses
  match connected with
  | none => return .pending
  | some (.error cause) => return .refused cause
  | some (.ok socket) => return .established (← exchange c socket line)

def attempts (c : RelayClient) (line : String) : List String → Async (List Connect)
  | [] => return []
  | address :: rest => do
    match ← attempt c line address with
    | .established peer => return [.established peer]
    | failed => return failed :: (← attempts c line rest)

def listen (address : String) : Async (Except String Socket.Server) := do
  match ← socketAddresses address with
  | .error cause => return .error cause
  | .ok addresses =>
    try
      let server ← Socket.Server.mk
      addresses.take 1 |>.forM fun a => server.bind a
      server.listen 1024
      return .ok server
    catch e => return .error e.toString

structure Running where
  service : Relay.Service
  server : Socket.Server
  directory : Location
  paths : List Path
  stop : Selector Unit
  lock : Std.Mutex Unit

def Running.serve (r : Running) (socket : Socket.Client) : Async Unit := do
  let h := r.service.handler
  let some incoming ← receive socket h.bufferSize h.readTimeoutMs r.stop | return
  let now ← secondsNow
  let name ← try toString <$> socket.getPeerName catch _ => pure "unknown"
  let caller : Caller := { name, incoming, receivedAt := now, answeredAt := now }
  let reply ← r.lock.atomically do
    let before ← Disk.seen r.directory r.paths
    let step := h.handle caller before
    Disk.keep before step.files r.paths
    return Effect.written step.effects
  try
    unless reply.isEmpty do socket.send reply.toUTF8
    socket.shutdown
  catch _ => return

partial def Running.loop (r : Running) : Async Unit := do
  let next ← Selectable.one #[
    .case r.stop fun _ => return none,
    .case r.server.acceptSelector fun socket => return some socket]
  match next with
  | none => return
  | some socket =>
    if r.service.concurrent then background (r.serve socket) else r.serve socket
    r.loop

def stopToken : Async Std.CancellationToken := do
  let token ← Std.CancellationToken.new
  for signal in [Signal.sigint, .sigterm, .sighup] do
    let waiter ← Signal.Waiter.mk signal false
    let received ← waiter.wait
    background do
      discard (await received)
      token.cancel .shutdown
  return token

def serve (service : Relay.Service) (server : Socket.Server) (directory : Location)
    (paths : List Path) : Async (Outcome Unit) := do
  let r : Running :=
    { service, server, directory, paths, stop := (← stopToken).selector, lock := ← Std.Mutex.new () }
  r.loop
  let before ← Disk.seen directory paths
  let (machine, result) := service.teardown { files := before }
  Disk.keep before machine.files paths
  return result

def filesOf (c : Config) : List Path :=
  [c.log.path, c.daemon.pidFile, c.delivery.sound.file] ++ (c.diagnosticLogPath false).toList

def worldOf (i : Cli.Invocation) (environment : Environment) : IO (Cli.World × List Path) := do
  let directory ← currentDirectory
  let world : Cli.World :=
    { machine := { files := { FileSystem.empty with workingDirectory := directory } }
      processes := { self := 0, present := fun _ => false }
      environment
      around := ← around
      network := Network.steady fun _ => .refused unreachable
      now := ← secondsNow
      terminate := fun machine _ => (machine, .error unreachable)
      detach := fun _ => .error unreachable
      happenings := [] }
  let configFile := (world.configPath i.config).toOption.toList
  let world := world.withFiles (← Disk.seen directory configFile)
  match world.settings i.config with
  | .error _ => return (world, configFile)
  | .ok s =>
    let paths := configFile ++ filesOf s.config
    let world := world.withFiles (← Disk.seen directory paths)
    return ({ world with
      processes := ← processesFor world.machine.files s.config.daemon.pidFile }, paths)

def connected (w : Cli.World) (s : Cli.Settings) : Cli.Action → Async (Cli.World × Option Socket.Server)
  | .send r => do
    let c := r.client s.config.client
    let known ← match r.event.validate with
      | .ok () => attempts c (r.event.encode w.now) c.addresses
      | .error _ => pure []
    return ({ w with network := ⟨fun n _ => known[n]?.getD (.refused unreachable)⟩ }, none)
  | .start false => do
    match ← listen s.config.server.listenAddress with
    | .ok server => return (w, some server)
    | .error cause =>
      return ({ w with machine := { w.machine with unusable := fun _ => some cause } }, none)
  | _ => return (w, none)

def printResult : Outcome Unit → IO UInt32
  | .ok () => return 0
  | .error f => do
    IO.eprintln (Cli.printed f)
    return 1

def carryOut (i : Cli.Invocation) (environment : Environment) : Async UInt32 := do
  let (w, paths) ← worldOf i environment
  let (w, server) ← match w.settings i.config with
    | .ok s => connected w s i.action
    | .error _ => pure (w, none)
  let report := w.execute i
  let directory := w.machine.files.workingDirectory
  Disk.keep w.machine.files report.machine.files paths
  report.output.forM fun line => IO.println line
  match report.result, server, w.settings i.config with
  | .ok (), some server, .ok s =>
    match Relay.startConfigured s.config w.around w.processes w.machine with
    | (_, .ok service) => printResult (← serve service server directory paths)
    | (_, .error f) => printResult (.error f)
  | result, _, _ => printResult result

def usageText : String :=
  "Usage: notify-relay [--config <CONFIG>] [--verbose] <daemon|send|config|init>"

def printUsage (u : Cli.Usage) : IO UInt32 := do
  match u with
  | .version => IO.println "notify-relay 0.1.0"
  | .help => IO.println usageText
  | _ => IO.eprintln usageText
  return u.exitCode.toUInt32

end EventRelay.Outside

open EventRelay Outside in
def main (args : List String) : IO UInt32 := do
  let environment ← environment
  match Cli.Invocation.parse args environment with
  | .error u => printUsage u
  | .ok i => (carryOut i environment).block
