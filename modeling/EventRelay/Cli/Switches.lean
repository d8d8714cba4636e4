/-!
Command lines as a tree of commands with switches. A command line is read argument by argument; a
switch whose value follows as the next argument is settled when another switch, a subcommand or the
end comes.
-/

namespace EventRelay.Cli

inductive Usage
  | invalidSubcommand
  | missingSubcommand
  | missingSwitch
  | invalidValue
  | tooManyValues
  | repeatedSwitch
  | unknownArgument
  | nothingGiven
  | help
  | version
  deriving DecidableEq, Repr

def Usage.exitCode : Usage → Nat
  | .help | .version => 0
  | _ => 2

inductive Switch.Kind
  | flag
  | value (mayBeEmpty : Bool)
  | help
  | version
  deriving DecidableEq, Repr

structure Switch where
  long : String
  short : Option Char
  kind : Switch.Kind
  fallback : Option String := none
  deriving DecidableEq, Repr

inductive Command
  | mk (name : String) (switches : List Switch) (required : List String)
      (subcommands : List Command)

namespace Command

def name : Command → String
  | .mk name _ _ _ => name

def switches : Command → List Switch
  | .mk _ switches _ _ => switches

def required : Command → List String
  | .mk _ _ required _ => required

def subcommands : Command → List Command
  | .mk _ _ _ subcommands => subcommands

def find? (c : Command) (name : String) : Option Command :=
  c.subcommands.find? (·.name == name)

def long? (c : Command) (name : String) : Option Switch :=
  c.switches.find? (·.long == name)

def short? (c : Command) (letter : Char) : Option Switch :=
  c.switches.find? (·.short == some letter)

end Command

abbrev Given := List (String × String)

abbrev Variables := String → Option String

def Switch.flag (long : String) (short : Option Char := none) : Switch :=
  { long, short, kind := .flag }

def Switch.text (long : String) (short : Option Char := none) : Switch :=
  { long, short, kind := .value true }

def Switch.fallback? (s : Switch) (vars : Variables) : Option String :=
  s.fallback.bind vars

def Switch.accepts (s : Switch) (value : String) : Bool :=
  s.kind != .value false || !value.isEmpty

structure Level where
  command : Command
  given : Given := []
  pending : Option (Switch × Option String) := none
  isOver : Bool := false

namespace Level

def put (l : Level) (s : Switch) (value : String) : Except Usage Level :=
  if (l.given.lookup s.long).isSome then .error .repeatedSwitch
  else if s.accepts value then .ok { l with given := l.given ++ [(s.long, value)] }
  else .error .invalidValue

def settle (l : Level) : Except Usage Level :=
  match l.pending with
  | none => .ok l
  | some (_, none) => .error .invalidValue
  | some (s, some value) => put { l with pending := none } s value

def awaitsValue (l : Level) : Bool := l.pending.any (·.2.isNone)

def flag (l : Level) (s : Switch) : Except Usage Level := do
  let l ← l.settle
  match s.kind with
  | .help => throw .help
  | .version => throw .version
  | _ => l.put s ""

def valued (l : Level) (s : Switch) (value : Option String) : Except Usage Level := do
  let l ← l.settle
  match value with
  | some value => l.put s value
  | none => return { l with pending := some (s, none) }

def takesValue (s : Switch) : Bool :=
  match s.kind with
  | .value _ => true
  | _ => false

def long (l : Level) (name : String) (value : Option String) : Except Usage Level :=
  match l.command.long? name with
  | none => .error .unknownArgument
  | some s =>
    if takesValue s then l.valued s value
    else if value.isSome then .error .tooManyValues
    else l.flag s

def letters (l : Level) : List Char → Except Usage Level
  | [] => .ok l
  | letter :: rest =>
    match l.command.short? letter with
    | none => .error .unknownArgument
    | some s =>
      if takesValue s then
        match rest with
        | [] => l.valued s none
        | '=' :: value => l.valued s (some (String.ofList value))
        | value => l.valued s (some (String.ofList value))
      else do letters (← l.flag s) rest

def splitLong (cs : List Char) : String × Option String :=
  match cs.dropWhile (· != '=') with
  | [] => (String.ofList cs, none)
  | _ :: value => (String.ofList (cs.takeWhile (· != '=')), some (String.ofList value))

def refusal (l : Level) (word : String) : Usage :=
  if l.command.subcommands.isEmpty then .unknownArgument
  else if l.isOver ∧ ((l.command.find? word).isSome ∨ word = "help") then .unknownArgument
  else .invalidSubcommand

def fallbacks (l : Level) (vars : Variables) : Except Usage Given :=
  l.command.switches.filterMapM fun s =>
    match l.given.lookup s.long, s.fallback? vars with
    | none, some value => if s.accepts value then .ok (some (s.long, value)) else .error .invalidValue
    | _, _ => .ok none

def finish (l : Level) (vars : Variables) (isLast : Bool) : Except Usage Given := do
  let l ← l.settle
  let fallbacks ← l.fallbacks vars
  if isLast ∧ ¬ l.command.subcommands.isEmpty then
    throw (if l.given.isEmpty ∧ fallbacks.isEmpty then .nothingGiven else .missingSubcommand)
  if l.command.required.all fun name => (l.given.lookup name).isSome then return l.given
  else throw .missingSwitch

end Level

inductive Reading
  | command (current : Level) (above : List Level)
  | help (about : Command)

namespace Reading

def word (current : Level) (above : List Level) (arg : String) : Except Usage Reading :=
  match current.pending with
  | some (s, none) =>
    .ok (.command { current with pending := some (s, some arg) } above)
  | _ => .error (current.refusal arg)

def switch (current : Level) (above : List Level) (arg : String) : Except Usage Reading :=
  match arg.toList with
  | ['-', '-'] => .ok (.command { current with isOver := true } above)
  | '-' :: '-' :: rest =>
    let (name, value) := Level.splitLong rest
    (current.long name value).map (.command · above)
  | '-' :: c :: rest => (current.letters (c :: rest)).map (.command · above)
  | _ => word current above arg

def next (r : Reading) (arg : String) : Except Usage Reading :=
  match r with
  | .help about =>
    match about.find? arg with
    | some c => .ok (.help c)
    | none =>
      if arg = "help" ∧ ¬ about.subcommands.isEmpty then .ok (.help (.mk "help" [] [] []))
      else .error .invalidSubcommand
  | .command current above =>
    if current.isOver then .error (current.refusal arg)
    else if current.awaitsValue then switch current above arg
    else if arg = "help" ∧ ¬ current.command.subcommands.isEmpty then
      .ok (.help current.command)
    else match current.command.find? arg with
      | some c => .ok (.command { command := c } (current :: above))
      | none => switch current above arg

def finish (vars : Variables) : Reading → Except Usage (List (String × Given))
  | .help _ => .error .help
  | .command current above => do
    let given ← current.finish vars true
    let outer ← above.mapM fun l => do return (l.command.name, ← l.finish vars false)
    return outer.reverse ++ [(current.command.name, given)]

end Reading

def read (program : Command) (vars : Variables) (args : List String) :
    Except Usage (List (String × Given)) := do
  (← args.foldlM Reading.next (.command { command := program } [])).finish vars

end EventRelay.Cli
