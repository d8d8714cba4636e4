import EventRelay.Files

namespace EventRelay.Program

inductive Ending
  | status (code : Nat)
  | signal (number : Nat)
  deriving DecidableEq, Repr

def signalNames : List String :=
  ["SIGHUP", "SIGINT", "SIGQUIT", "SIGILL", "SIGTRAP", "SIGABRT", "SIGBUS", "SIGFPE", "SIGKILL",
    "SIGUSR1", "SIGSEGV", "SIGUSR2", "SIGPIPE", "SIGALRM", "SIGTERM", "SIGSTKFLT", "SIGCHLD",
    "SIGCONT", "SIGSTOP", "SIGTSTP", "SIGTTIN", "SIGTTOU", "SIGURG", "SIGXCPU", "SIGXFSZ",
    "SIGVTALRM", "SIGPROF", "SIGWINCH", "SIGIO", "SIGPWR", "SIGSYS"]

namespace Ending

def isSuccess (e : Ending) : Bool := e == .status 0

def text : Ending → String
  | .status code => s!"exit status: {code}"
  | .signal number =>
    match number, signalNames[number - 1]? with
    | _ + 1, some name => s!"signal: {number} ({name})"
    | _, _ => s!"signal: {number}"

end Ending

inductive Run
  | notStarted (cause : String)
  | closed (cause : String)
  | ended (ending : Ending) (errors : Bytes)
  deriving DecidableEq, Repr

abbrev Commands := (command : String) → (args : List String) → (input : Bytes) → Run

abbrev Starts := (command : String) → (argument : String) → Except String Unit

def argumentLimit : Nat := 131072

def searchFault (fs : FileSystem) (command : String) : SystemError :=
  if command.contains '/' then
    match fs.find ⟨command⟩ with
    | .ok _ => .permissionDenied
    | .error e => e
  else if command = "." ∨ command = ".." then .permissionDenied
  else if FileSystem.maxName < command.utf8ByteSize then .nameTooLong
  else .notFound

def startFault? (fs : FileSystem) (isKnown : Bool) (command : String) (args : List String) :
    Option SystemError :=
  if (command :: args).any (·.contains '\x00') then some .zeroInArgument
  else if ¬ isKnown then some (searchFault fs command)
  else if args.any (argumentLimit ≤ ·.utf8ByteSize) then some .argumentsTooLong
  else none

end EventRelay.Program
