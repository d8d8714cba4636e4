import EventRelay.DomainName
import EventRelay.Failure
import EventRelay.IpAddress
import EventRelay.Text.Bytes
import EventRelay.Unicode.Alphanumeric

namespace EventRelay.Mail

structure Address where
  user : String
  domain : String
  deriving DecidableEq, Repr

inductive AddressError
  | missingParts
  | invalidUser
  | invalidDomain
  deriving DecidableEq, Repr

def AddressError.message : AddressError → String
  | .missingParts => "Missing domain or user"
  | .invalidUser => "Invalid email user"
  | .invalidDomain => "Invalid email domain"

namespace Address

/--
A character whose code point is a two-byte sequence of UTF-8. Of the characters beyond ASCII, these
may stand wherever a sign may.
-/
def isPairOfBytes (c : Char) : Bool :=
  let (high, low) := (c.toNat / 256, c.toNat % 256)
  0xC2 ≤ high && high ≤ 0xDF && 0x80 ≤ low && low ≤ 0xBF

def isAtomChar (c : Char) : Bool :=
  Unicode.isAlphanumeric c || isPairOfBytes c ||
    "!#$%&\x27*+-/=?^_\x60\x7b|\x7d~".toList.contains c

def isAtom (cs : List Char) : Bool := !cs.isEmpty && cs.all isAtomChar

def isDotAtom (cs : List Char) : Bool := (Text.splitAt (· == '.') cs).all isAtom

def isVisible (c : Char) : Bool := 0x21 ≤ c.toNat && c.toNat ≤ 0x7E

def isQuotedContent : List Char → Bool
  | [] => true
  | '\\' :: c :: cs => isVisible c && isQuotedContent cs
  | c :: cs =>
    c != '\\' && c != '"' && (isVisible c || c == ' ' || c == '\t' || isPairOfBytes c) &&
      isQuotedContent cs

def byteLength (cs : List Char) : Nat := (String.ofList cs).utf8ByteSize

def isUser (cs : List Char) : Bool :=
  !cs.isEmpty && byteLength cs ≤ 64 &&
    match cs with
    | '"' :: rest =>
      if rest.isEmpty then false
      else if rest.getLast? = some '"' then rest.length != 1 && isQuotedContent rest.dropLast
      else false
    | cs => isDotAtom cs

def isLabel (cs : List Char) : Bool :=
  isAtom cs && byteLength cs ≤ 63 && cs.head?.any Unicode.isAlphanumeric &&
    cs.getLast?.any Unicode.isAlphanumeric

def isLiteralChar (c : Char) : Bool :=
  (isVisible c || isPairOfBytes c) && c != '[' && c != '\\' && c != ']'

def isWrittenDomain (cs : List Char) : Bool :=
  !cs.isEmpty && byteLength cs ≤ 254 &&
    match cs, cs.getLast? with
    | '[' :: rest, some ']' => rest.dropLast.all isLiteralChar
    | _, _ => (Text.splitAt (· == '.') cs).all isLabel

def isPlace (cs : List Char) : Bool := isWrittenDomain cs || (IpAddress.parse? cs).isSome

def isDomain (cs : List Char) : Bool :=
  isPlace cs || (DomainName.toAscii? (fun _ => false) cs).any isPlace

def parse (s : String) : Except AddressError Address :=
  let reversed := s.toList.reverse
  match reversed.dropWhile (· != '@') with
  | [] => .error .missingParts
  | _ :: user =>
    let user := user.reverse
    let domain := (reversed.takeWhile (· != '@')).reverse
    if ¬ isUser user then .error .invalidUser
    else if isDomain domain then
      .ok { user := String.ofList user, domain := String.ofList domain }
    else .error .invalidDomain

def bare (mailbox : String) : String :=
  let reversed := mailbox.toList.reverse
  match reversed.dropWhile (· != '>') with
  | [] => mailbox
  | _ :: before =>
    if (reversed.takeWhile (· != '>')).contains '<' then mailbox
    else
      let inside := before.takeWhile (· != '<')
      if inside.length = before.length then mailbox else String.ofList inside.reverse

def ofMailbox (mailbox : String) : Outcome Address :=
  match parse (Text.trim (bare mailbox)) with
  | .ok a => .ok a
  | .error e => .error (.delivery "mail" s!"invalid address '{mailbox}'" [e.message])

end Address

end EventRelay.Mail
