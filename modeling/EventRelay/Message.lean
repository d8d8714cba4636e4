import EventRelay.Event
import EventRelay.Json.Value

namespace EventRelay

structure Message where
  subject : String
  title : String
  body : String
  source : String
  level : Level
  tag : String
  deriving DecidableEq, Repr

namespace Message

def subjectOf (e : Event) : String :=
  let subject := s!"System notification [{e.source}] [{e.level.name}]"
  if e.tagText.isEmpty then subject else s!"{subject} {e.tagText}"

def ofEvent (e : Event) : Message :=
  { subject := subjectOf e
    title := e.title
    body := e.details
    source := e.source
    level := e.level
    tag := e.tagText }

def chatPost (m : Message) : Json.Value :=
  .object [("content", .string s!"{m.subject} {m.title}")]

end Message

end EventRelay
