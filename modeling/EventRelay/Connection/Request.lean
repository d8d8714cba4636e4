import EventRelay.Connection.Arrival
import EventRelay.Failure
import EventRelay.Text.Blank

namespace EventRelay

inductive Abandonment
  | readTimeout
  | closedEarly
  | readFailed
  deriving DecidableEq, Repr

def Abandonment.name : Abandonment → String
  | .readTimeout => "read_timeout"
  | .closedEarly => "closed_early"
  | .readFailed => "read_failed"

inductive Request
  | line (text : String)
  | refused (f : Failure)
  | none (why : Abandonment)
  deriving DecidableEq, Repr

namespace Request

def lineFeed : UInt8 := 10

def withoutReturn (line : Bytes) : Bytes :=
  if line.getLast? = some 13 then line.dropLast else line

def tooLarge : Failure := .protocol "request too large" []

def notText (cause : String) : Failure := .protocol "request is not valid UTF-8" [cause]

def ofLine (line : Bytes) : Request :=
  match (withoutReturn line).toString? with
  | .none => .refused (notText "Unable to decode input as UTF8")
  | some text => if Text.isBlankText text then .none .closedEarly else .line text

def ofRest (rest : Bytes) : Arrival.Ending → Request
  | .late => .none .readTimeout
  | .failed true cause => .refused (notText cause)
  | .failed false _ => .none .readFailed
  | .closed => if rest = [] ∨ rest = [13] then .none .closedEarly else ofLine rest

/-- A line may be `limit` bytes long, not counting its line feed. -/
def ofArrival (limit : Nat) (a : Arrival) : Request :=
  let start := a.bytes.take (limit + 1)
  let line := start.takeWhile (· != lineFeed)
  if line.length < start.length then ofLine line
  else if limit < start.length then .refused tooLarge
  else ofRest start a.ending

end Request

end EventRelay
