import EventRelay.Calendar
import EventRelay.Failure
import EventRelay.Json.Reader
import EventRelay.Text.Blank

namespace EventRelay

inductive AckStatus
  | success
  | error
  deriving DecidableEq, Repr

def AckStatus.name : AckStatus → String
  | .success => "success"
  | .error => "error"

structure Acknowledgement where
  status : AckStatus
  message : String
  timestamp : String
  recipients : Option (List String) := none
  deriving DecidableEq, Repr

namespace Acknowledgement

def successMessage : String := "Notification sent successfully"

def success (recipients : Option (List String)) (now : Int) : Acknowledgement :=
  { status := .success, message := successMessage, timestamp := Calendar.render now, recipients }

def error (message : String) (now : Int) : Acknowledgement :=
  { status := .error, message, timestamp := Calendar.render now }

def isSuccess (a : Acknowledgement) : Bool := a.status == .success

open Json

def toValue (a : Acknowledgement) : Value :=
  .object (
    [("status", .string a.status.name),
      ("message", .string a.message),
      ("timestamp", .string a.timestamp)] ++
    (a.recipients.map fun rs => ("recipients", Value.list (rs.map .string))).toList)

def encode (a : Acknowledgement) : String := a.toValue.text ++ "\n"

structure Known where
  status : Option AckStatus := none
  message : Option String := none
  timestamp : Option String := none
  recipients : Option (Option (List String)) := none

def typeName : String := "struct Acknowledgement"

def readString : Reader String := readText "a string"

def readStatus : Reader AckStatus := fun s =>
  (readChoice AckStatus.success.name AckStatus.error.name s).map
    fun (isFirst, rest) => (if isFirst then .success else .error, rest)

def readRecipients : Reader (Option (List String)) := readOptional (readList readString)

def readField (key : String) (k : Known) : Reader Known := fun s =>
  match key with
  | "status" => (readOnce key k.status readStatus s).map fun (v, s) => ({ k with status := v }, s)
  | "message" => (readOnce key k.message readString s).map fun (v, s) => ({ k with message := v }, s)
  | "timestamp" => (readOnce key k.timestamp readString s).map
      fun (v, s) => ({ k with timestamp := v }, s)
  | "recipients" => (readOnce key k.recipients readRecipients s).map
      fun (v, s) => ({ k with recipients := v }, s)
  | _ => do .ok (k, ← skipValue (← readColon s))

def readNamed : Reader Acknowledgement := fun s => do
  let (k, s) ← readMembers readField (s.length + 1) true {} s
  match k.status, k.message, k.timestamp with
  | some status, some message, some timestamp =>
    .ok ({ status, message, timestamp, recipients := k.recipients.getD none }, s)
  | none, _, _ => .error (missingField "status" s)
  | _, none, _ => .error (missingField "message" s)
  | _, _, none => .error (missingField "timestamp" s)

def readPositional : Reader Acknowledgement := fun s => do
  let expected := s!"{typeName} with 4 elements"
  let (status, s) ← readNext true readStatus s
  match status with
  | none => .error (tooShort 0 expected s)
  | some status =>
    let (message, s) ← readNext false readString s
    match message with
    | none => .error (tooShort 1 expected s)
    | some message =>
      let (timestamp, s) ← readNext false readString s
      match timestamp with
      | none => .error (tooShort 2 expected s)
      | some timestamp =>
        let (recipients, s) ← readNext false readRecipients s
        .ok ({ status, message, timestamp, recipients := recipients.getD none }, s)

def read : Reader Acknowledgement := readRecord typeName readPositional readNamed

def decode (line : String) : Outcome Acknowledgement :=
  let text := Text.trimList line.toList
  match readWhole read text with
  | .error fault => .error (.ofJsonFault fault text)
  | .ok a => .ok a

end Acknowledgement

end EventRelay
