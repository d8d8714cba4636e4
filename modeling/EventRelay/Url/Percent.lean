import EventRelay.Text.Number
import EventRelay.Text.Bytes

namespace EventRelay.Url

def isControl (c : Char) : Bool := c.toNat < 0x20 || 0x7F ≤ c.toNat

def encodedInFragment (c : Char) : Bool := isControl c || " \"<>\x60".toList.contains c

def encodedInQuery (c : Char) : Bool := isControl c || " \"#<>\x27".toList.contains c

def encodedInPath (c : Char) : Bool := encodedInFragment c || "#?\x7b\x7d".toList.contains c

def encodedInUser (c : Char) : Bool := encodedInPath c || "/:;=@[\\]^|".toList.contains c

def hexDigit (n : Nat) : Char :=
  if n < 10 then Char.ofNat (48 + n) else Char.ofNat (55 + n)

def percentByte (b : UInt8) : List Char :=
  ['%', hexDigit (b.toNat / 16), hexDigit (b.toNat % 16)]

def percentEncode (encoded : Char → Bool) (cs : List Char) : List Char :=
  cs.flatMap fun c =>
    if encoded c then (Bytes.ofString (String.singleton c)).flatMap percentByte else [c]

def percentDecode : Bytes → Bytes
  | 0x25 :: high :: low :: rest =>
    match Text.hexValue? (Char.ofNat high.toNat), Text.hexValue? (Char.ofNat low.toNat) with
    | some high, some low => UInt8.ofNat (high * 16 + low) :: percentDecode rest
    | _, _ => 0x25 :: percentDecode (high :: low :: rest)
  | b :: rest => b :: percentDecode rest
  | [] => []

end EventRelay.Url
