import EventRelay.Files
import EventRelay.Mail.Envelope
import EventRelay.Message
import EventRelay.Url

/-!
Sinks: where the message of an accepted event ends up. A sink tells what it does with a message, how
long that takes and what comes of it; it may answer each call in its own way.
-/

namespace EventRelay

abbrev Recipients := Option (List String)

inductive Act
  | submit (envelope : Mail.Envelope)
  | play (file : Path)
  | say (text : String)
  | post (url : Url) (body : Json.Value)

structure Delivery where
  acts : List Act := []
  /-- What went wrong without making the delivery fail. -/
  warnings : List String := []
  durationMs : Nat := 0
  result : Outcome Recipients

/-- What a sink finds when it is called. No two calls need be answered alike. -/
structure Occasion where
  files : FileSystem
  call : Nat := 0

instance : Coe FileSystem Occasion := ⟨fun files => { files }⟩

structure Sink where
  name : String
  deliver : Occasion → Message → Delivery

def Delivery.within (d : Delivery) (limitMs : Nat) (sink : String) : Outcome Recipients :=
  if limitMs < d.durationMs then
    .error (.delivery sink "delivery timed out" [])
  else d.result

end EventRelay
