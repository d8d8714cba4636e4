import EventRelay.DomainName
import EventRelay.IpAddress
import EventRelay.Url.Percent

namespace EventRelay.Url

inductive Host
  | named (text : String)
  | address (ip : IpAddress)
  deriving DecidableEq, Repr

namespace Host

def text : Host → String
  | .named text => text
  | .address (.v6 groups) => s!"[{IpAddress.textV6 groups}]"
  | .address (.v4 octets) => (IpAddress.v4 octets).text

def isForbidden (c : Char) : Bool :=
  c.toNat ≤ 0x20 || c.toNat == 0x7F || "#%/:<>?@[\\]^|".toList.contains c

inductive Numeral
  | none
  | tooLarge
  | value (n : Nat)
  deriving DecidableEq, Repr

def digits? (base : Nat) (cs : List Char) : Option (List Nat) :=
  cs.mapM fun c => (Text.hexValue? c).filter (· < base)

def numeral (cs : List Char) : Numeral :=
  let (base, rest) := match cs with
    | '0' :: 'x' :: rest | '0' :: 'X' :: rest => (16, rest)
    | '0' :: c :: rest => (8, c :: rest)
    | cs => (10, cs)
  if cs.isEmpty then .none
  else match digits? base rest with
    | some ds =>
      let n := Text.number base ds
      if n ≤ Text.max32 then .value n else .tooLarge
    | none => .none

def endsInNumber (name : List Char) : Bool :=
  let parts := (Text.splitAt (· == '.') name).reverse
  let last := match parts with
    | [] :: last :: _ => last
    | [[]] => []
    | last :: _ => last
    | [] => []
  (!last.isEmpty && last.all Char.isDigit) || numeral last != .none

def octetsOf (n : Nat) : List Nat := [n / 16777216 % 256, n / 65536 % 256, n / 256 % 256, n % 256]

/-- At most four numbers; the last one fills the octets that the others leave. -/
def parseNumeric? (name : List Char) : Option (List Nat) := do
  let parts := Text.splitAt (· == '.') name
  let parts := if parts.getLast? = some [] then parts.dropLast else parts
  if 4 < parts.length then none
  let numbers ← parts.mapM fun part => match numeral part with
    | .value n => some n
    | _ => none
  let last ← numbers.getLast?
  let leading := numbers.dropLast
  if leading.any (255 < ·) ∨ Nat.pow 256 (4 - leading.length) ≤ last then none
  let high := leading.zipIdx.foldl (fun high (n, i) => high + n * Nat.pow 256 (3 - i)) 0
  some (octetsOf (high + last))

def parse? (cs : List Char) : Option Host :=
  match cs with
  | '[' :: rest =>
    if rest.getLast? = some ']' then
      (IpAddress.parseV6? rest.dropLast).map fun groups => .address (.v6 groups)
    else none
  | _ => do
    let decoded ← Bytes.toString? (percentDecode (Bytes.ofString (String.ofList cs)))
    let name ← DomainName.toAscii? isForbidden decoded.toList
    if name.isEmpty then none
    else if endsInNumber name then
      (parseNumeric? name).map fun octets => .address (.v4 octets)
    else some (.named (String.ofList name))

end Host

end EventRelay.Url
