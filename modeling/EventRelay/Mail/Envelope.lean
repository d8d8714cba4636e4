import EventRelay.Mail.EncodedWord

namespace EventRelay.Mail

structure Envelope where
  sender : String
  recipients : List String
  subject : String
  html : String
  deriving DecidableEq, Repr

namespace Envelope

def lineBreak : String := "\r\n"

def recipientText (e : Envelope) : String := ", ".intercalate e.recipients

def fields (e : Envelope) : List (String × String) :=
  [("From", e.sender),
    ("To", e.recipientText),
    ("Subject", EncodedWord.encode e.subject),
    ("MIME-Version", "1.0"),
    ("Content-Type", "text/html; charset=utf-8"),
    ("Content-Transfer-Encoding", "8bit")]

def header (e : Envelope) : String :=
  String.join (e.fields.map fun (name, value) => s!"{name}: {value}{lineBreak}")

def message (e : Envelope) : String := e.header ++ lineBreak ++ e.html

end Envelope

end EventRelay.Mail
