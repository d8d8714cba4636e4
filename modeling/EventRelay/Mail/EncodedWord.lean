import EventRelay.Text.Bytes

namespace EventRelay.EncodedWord

def opening : String := "=?UTF-8?Q?"

def closing : String := "?="

def maxLength : Nat := 75

def maxPayload : Nat := maxLength - opening.length - closing.length

def separator : String := "\r\n "

def isPlain (c : Char) : Bool := 0x20 ≤ c.toNat && c.toNat ≤ 0x7E

def isSafe (c : Char) : Bool :=
  c.isAlphanum || c == '-' || c == '.' || c == '!' || c == '*' || c == '+' || c == '/'

def upperHexDigit (n : Nat) : Char :=
  if n < 10 then Char.ofNat (48 + n) else Char.ofNat (55 + n)

def encodeByte (b : UInt8) : List Char :=
  ['=', upperHexDigit (b.toNat / 16), upperHexDigit (b.toNat % 16)]

def encodeChar (c : Char) : List Char :=
  if c = ' ' then ['_']
  else if isSafe c then [c]
  else (Bytes.ofString (String.singleton c)).flatMap encodeByte

/-- Fills words of at most `limit` characters with pieces that stay whole. -/
def fill (limit : Nat) (word : List Char) : List (List Char) → List (List Char)
  | [] => if word.isEmpty then [] else [word]
  | piece :: pieces =>
    if limit < word.length + piece.length then word :: fill limit piece pieces
    else fill limit (word ++ piece) pieces

def payloads (value : String) : List (List Char) :=
  fill maxPayload [] (value.toList.map encodeChar)

def encode (value : String) : String :=
  if value.toList.all isPlain then value
  else separator.intercalate
    ((payloads value).map fun word => opening ++ String.ofList word ++ closing)

def hexValue? (c : Char) : Option Nat :=
  if c.isDigit then some (c.toNat - 48)
  else if 'A' ≤ c ∧ c ≤ 'F' then some (c.toNat - 55)
  else none

def decodePayload? : List Char → Option Bytes
  | [] => some []
  | '_' :: cs => (decodePayload? cs).map (0x20 :: ·)
  | '=' :: high :: low :: cs => do
    let (high, low) := (← hexValue? high, ← hexValue? low)
    return UInt8.ofNat (high * 16 + low) :: (← decodePayload? cs)
  | c :: cs =>
    if isSafe c then (decodePayload? cs).map (UInt8.ofNat c.toNat :: ·) else none

end EventRelay.EncodedWord
