import EventRelay.Text.Bytes

/-!
What arrives on a connection: pieces with pauses between them, of which only the bytes count that
come within the time that is allowed for a request.
-/

namespace EventRelay

inductive Read
  | bytes (data : Bytes)
  | wait (ms : Nat)
  | fail (invalid : Bool) (cause : String)
  deriving DecidableEq, Repr

structure Incoming where
  reads : List Read
  staysOpen : Bool := false
  deriving DecidableEq, Repr

namespace Arrival

inductive Ending
  | closed
  | late
  | failed (invalid : Bool) (cause : String)
  deriving DecidableEq, Repr

end Arrival

structure Arrival where
  bytes : Bytes
  ending : Arrival.Ending
  deriving DecidableEq, Repr

namespace Arrival

def cons (data : Bytes) (a : Arrival) : Arrival := { a with bytes := data ++ a.bytes }

def ofReads (staysOpen : Bool) (ms : Nat) : List Read → Arrival
  | [] => ⟨[], if staysOpen then .late else .closed⟩
  | .bytes data :: reads => (ofReads staysOpen ms reads).cons data
  | .wait pause :: reads => if ms < pause then ⟨[], .late⟩ else ofReads staysOpen (ms - pause) reads
  | .fail invalid cause :: _ => ⟨[], .failed invalid cause⟩

end Arrival

def Incoming.within (i : Incoming) (ms : Nat) : Arrival := .ofReads i.staysOpen ms i.reads

end EventRelay
