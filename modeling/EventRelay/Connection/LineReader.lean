import EventRelay.Connection.Request

/-!
A request as it comes in. The pieces are gathered in a buffer, of which only the part is searched
for the end of the line that has not been searched yet, and nothing more than one byte behind the
limit.
-/

namespace EventRelay

structure LineReader where
  limit : Nat
  buffer : Bytes := []
  /-- How much of the buffer is known to hold no line feed. -/
  searched : Nat := 0
  deriving DecidableEq, Repr

namespace LineReader

inductive Progress
  | request (request : Request)
  | more (reader : LineReader)
  deriving DecidableEq, Repr

def search (r : LineReader) : Progress :=
  let stop := min (r.limit + 1) r.buffer.length
  match ((r.buffer.take stop).drop r.searched).findIdx? (· == Request.lineFeed) with
  | some offset => .request (.ofLine (r.buffer.take (r.searched + offset)))
  | none =>
    if r.limit < r.buffer.length then .request (.refused Request.tooLarge)
    else .more { r with searched := stop }

def push (r : LineReader) (data : Bytes) : Progress :=
  search { r with buffer := r.buffer ++ data }

def finish (r : LineReader) : Request :=
  match r.search with
  | .request request => request
  | .more r =>
    if r.buffer = [] ∨ r.buffer = [13] then .none .closedEarly else .ofLine r.buffer

def run (staysOpen : Bool) (r : LineReader) (ms : Nat) : List Read → Request
  | [] => if staysOpen then .none .readTimeout else r.finish
  | .bytes data :: reads =>
    match r.push data with
    | .request request => request
    | .more r => r.run staysOpen ms reads
  | .wait pause :: reads =>
    if ms < pause then .none .readTimeout else r.run staysOpen (ms - pause) reads
  | .fail invalid cause :: _ =>
    if invalid then .refused (Request.notText cause) else .none .readFailed

end LineReader

def Request.read (limit ms : Nat) (i : Incoming) : Request :=
  LineReader.run i.staysOpen { limit } ms i.reads

end EventRelay
