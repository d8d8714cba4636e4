import EventRelay.Failure
import EventRelay.Text.Blank

namespace EventRelay

inductive Level
  | debug
  | info
  | error
  deriving DecidableEq, Repr, Inhabited

def Level.name : Level → String
  | .debug => "debug"
  | .info => "info"
  | .error => "error"

/-- Blanks around it and the case of ASCII letters do not matter; an unknown name means `info`. -/
def Level.ofName (name : String) : Level :=
  let name := Text.caseless name
  if name = "debug" then .debug
  else if name = "error" then .error
  else .info

structure Event where
  source : String
  title : String
  details : String := ""
  tag : Option String := none
  level : Level := .info
  timestamp : Option Int := none
  deriving DecidableEq, Repr

namespace Event

def withTag (e : Event) (tag : String) : Event :=
  { e with tag := if tag.isEmpty then none else some tag }

def tagText (e : Event) : String := e.tag.getD ""

def validate (e : Event) : Outcome Unit :=
  if Text.isBlankText e.source then .error (.protocol "missing program_name" []) else .ok ()

def stamped (e : Event) (now : Int) : Event :=
  { e with timestamp := some (e.timestamp.getD now) }

end Event

end EventRelay
