import EventRelay.Event
import EventRelay.Json.Reader

namespace EventRelay.Event

inductive Field
  | source
  | title
  | details
  | tag
  | level
  | timestamp
  deriving DecidableEq, Repr

def Field.key : Field → String
  | .source => "program_name"
  | .title => "title"
  | .details => "details"
  | .tag => "message_tag"
  | .level => "message_type"
  | .timestamp => "timestamp"

def Field.aliases : Field → List String
  | .source => ["source"]
  | .title => ["message"]
  | .tag => ["tag", "error_tag"]
  | .level => ["level", "error_level"]
  | .details | .timestamp => []

def Field.all : List Field := [.source, .title, .details, .tag, .level, .timestamp]

def Field.ofKey? (key : String) : Option Field :=
  Field.all.find? fun f => key = f.key || f.aliases.contains key

def toValue (e : Event) : Json.Value :=
  .object (
    [(Field.source.key, .string e.source),
      (Field.title.key, .string e.title),
      (Field.details.key, .string e.details)] ++
    (e.tag.map fun tag => (Field.tag.key, Json.Value.string tag)).toList ++
    [(Field.level.key, .string e.level.name)] ++
    (e.timestamp.map fun t => (Field.timestamp.key, Json.Value.int t)).toList)

def encode (e : Event) (now : Int) : String := (e.stamped now).toValue.text ++ "\n"

structure Known where
  source : Option String := none
  title : Option String := none
  details : Option String := none
  tag : Option (Option String) := none
  level : Option Level := none
  timestamp : Option (Option Int) := none

def Known.toEvent? (k : Known) : Option Event :=
  k.title.map fun title =>
    { source := k.source.getD ""
      title
      details := k.details.getD ""
      tag := k.tag.getD none
      level := k.level.getD .info
      timestamp := k.timestamp.getD none }

open Json

def typeName : String := "struct NotificationEvent"

def readString : Reader String := readText "a string"

def readLevel : Reader Level := fun s =>
  (readString s).map fun (name, rest) => (Level.ofName name, rest)

def readField (key : String) (k : Known) : Reader Known := fun s =>
  match Field.ofKey? key with
  | some .source => (readOnce Field.source.key k.source readString s).map
      fun (v, s) => ({ k with source := v }, s)
  | some .title => (readOnce Field.title.key k.title readString s).map
      fun (v, s) => ({ k with title := v }, s)
  | some .details => (readOnce Field.details.key k.details readString s).map
      fun (v, s) => ({ k with details := v }, s)
  | some .tag => (readOnce Field.tag.key k.tag (readOptional readString) s).map
      fun (v, s) => ({ k with tag := v }, s)
  | some .level => (readOnce Field.level.key k.level readLevel s).map
      fun (v, s) => ({ k with level := v }, s)
  | some .timestamp => (readOnce Field.timestamp.key k.timestamp (readOptional readInt64) s).map
      fun (v, s) => ({ k with timestamp := v }, s)
  | none => do .ok (k, ← skipValue (← readColon s))

def readNamed : Reader Event := fun s => do
  let (known, s) ← readMembers readField (s.length + 1) true {} s
  match known.toEvent? with
  | some e => .ok (e, s)
  | none => .error (missingField Field.title.key s)

def readPositional : Reader Event := fun s => do
  let (source, s) ← readNext true readString s
  let (title, s) ← readNext source.isNone readString s
  match title with
  | none => .error (tooShort 1 s!"{typeName} with 6 elements" s)
  | some title =>
    let (details, s) ← readNext false readString s
    let (tag, s) ← readNext false (readOptional readString) s
    let (level, s) ← readNext false readLevel s
    let (timestamp, s) ← readNext false (readOptional readInt64) s
    .ok
      ({ source := source.getD ""
         title
         details := details.getD ""
         tag := tag.getD none
         level := level.getD .info
         timestamp := timestamp.getD none }, s)

def read : Reader Event := readRecord typeName readPositional readNamed

def decode (line : String) : Outcome Event :=
  let text := Text.trimList line.toList
  if text.isEmpty then .error (.protocol "empty request" [])
  else
    match readWhole read text with
    | .error fault => .error (.ofJsonFault fault text)
    | .ok e => do
      e.validate
      .ok e

end EventRelay.Event
