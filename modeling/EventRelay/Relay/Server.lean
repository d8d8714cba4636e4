import EventRelay.Relay.Startup

/-!
The accept loop. Connections are served one after another or side by side; whatever happens around
the relay is a list of happenings, and `Server.run` tells what the relay makes of it. Until a
shutdown is asked for nothing ends the loop.
-/

namespace EventRelay.Relay

inductive ServerState
  | starting
  | listening
  | handling
  | shuttingDown
  | stopped
  deriving DecidableEq, Repr

def ServerState.name : ServerState → String
  | .starting => "Starting"
  | .listening => "Listening"
  | .handling => "Handling"
  | .shuttingDown => "ShuttingDown"
  | .stopped => "Stopped"

inductive Sign
  | state (s : ServerState)
  | accepted (connection : Nat)
  | listenerClosed
  | pidFileReleased (result : Outcome Unit)

inductive Phase
  | selecting
  | pausing
  | serving (connection : Nat)
  | closing
  | releasing
  | stopped
  deriving DecidableEq, Repr

structure Slot where
  caller : Caller
  stage : Stage := .waiting
  abandoned : Bool := false

namespace Slot

/-- An append that has begun goes on when its connection is abandoned; nothing else does. -/
def isBusy (s : Slot) : Bool :=
  match s.stage with
  | .ended _ => false
  | .logging .. | .writing .. => true
  | _ => !s.abandoned

/-- Whether the append runs on its own, beside the loop. -/
def isAppending (s : Slot) : Bool :=
  match s.stage with
  | .logging .. | .writing .. => true
  | _ => false

def isOver (s : Slot) : Bool :=
  match s.stage with
  | .ended _ => true
  | _ => false

end Slot

structure Server where
  service : Service
  machine : Machine
  slots : List Slot := []
  effects : List (Nat × Effect) := []
  signs : List Sign := [.state .starting, .state .listening]
  phase : Phase := .selecting
  /-- A shutdown is asked for, or nobody is left who could ask for it. -/
  shutdownPending : Bool := false

inductive Happening
  | shutdown
  | connection (c : Caller)
  | acceptFailure
  | progress (connection : Nat)
  /-- The loop looks around, or goes on with what it is about. -/
  | turn

namespace Server

def sign (s : Server) (sign : Sign) : Server := { s with signs := s.signs ++ [sign] }

def isLogLocked (s : Server) : Bool := s.slots.any (·.stage.holdsLock)

def isReady (s : Server) (slot : Slot) : Bool :=
  slot.isBusy &&
    match slot.stage with
    | .logging .. => !s.isLogLocked
    | _ => true

def advance (s : Server) (i : Nat) : Server :=
  match s.slots[i]? with
  | none => s
  | some slot =>
    if s.isReady slot then
      let step := s.service.handler.step slot.caller s.machine.files slot.stage
      { s with
        machine := { s.machine with files := step.files }
        slots := s.slots.set i { slot with stage := step.stage }
        effects := s.effects ++ step.effects.map fun e => (i, e) }
    else s

def leave (s : Server) : Server :=
  let slots := s.slots.map fun slot => { slot with abandoned := true }
  sign { s with slots, phase := .closing } (.state .shuttingDown)

def accept (s : Server) (c : Caller) : Server :=
  let i := s.slots.length
  let s := sign { s with slots := s.slots ++ [{ caller := c }] } (.accepted i)
  if s.service.concurrent then s else sign { s with phase := .serving i } (.state .handling)

def settle (s : Server) : Server :=
  match s.phase with
  | .serving i =>
    if s.slots[i]?.any (·.isOver) then sign { s with phase := .selecting } (.state .listening)
    else s
  | _ => s

/-- Whether connection `i` moves only when the loop lets it. -/
def isDrivenByLoop (s : Server) (i : Nat) : Bool :=
  s.phase == .serving i && !(s.slots[i]?.any (·.isAppending))

/-- A shutdown that is pending comes before anything else that the loop waits for. -/
def next (s : Server) : Happening → Server
  | .shutdown => { s with shutdownPending := true }
  | .connection c =>
    match s.phase with
    | .selecting => if s.shutdownPending then s.leave else s.accept c
    | _ => s
  | .acceptFailure =>
    match s.phase with
    | .selecting => if s.shutdownPending then s.leave else { s with phase := .pausing }
    | _ => s
  | .progress i =>
    if s.shutdownPending ∧ s.isDrivenByLoop i then s.leave else (s.advance i).settle
  | .turn =>
    match s.phase with
    | .selecting | .serving _ => if s.shutdownPending then s.leave else s
    | .pausing => { s with phase := .selecting }
    | .closing =>
      let machine := s.machine.close s.service.listener
      sign { s with machine, phase := .releasing } .listenerClosed
    | .releasing =>
      let (files, result) := s.service.pidFile.release s.machine.files
      let s := { s with machine := { s.machine with files }, phase := .stopped }
      sign (sign s (.pidFileReleased result)) (.state .stopped)
    | .stopped => s

def run (s : Server) (happenings : List Happening) : Server := happenings.foldl next s

def states (s : Server) : List ServerState :=
  s.signs.filterMap fun
    | .state state => some state
    | _ => none

def state (s : Server) : ServerState := s.states.getLast?.getD .starting

def result? (s : Server) : Option (Outcome Unit) :=
  s.signs.findSome? fun
    | .pidFileReleased result => some result
    | _ => none

def shutdown : List Happening := [.shutdown, .turn, .turn, .turn]

end Server

end EventRelay.Relay
