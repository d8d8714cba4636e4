import EventRelay.Text.Number
import EventRelay.Text.Split

namespace EventRelay

inductive IpAddress
  | v4 (octets : List Nat)
  | v6 (groups : List Nat)
  deriving DecidableEq, Repr

namespace IpAddress

def octet? (cs : List Char) : Option Nat :=
  if cs.isEmpty ∨ 3 < cs.length ∨ ¬ cs.all Char.isDigit then none
  else if cs.head? = some '0' ∧ cs.length ≠ 1 then none
  else
    let n := Text.number 10 (cs.map fun c => c.toNat - 48)
    if n < 256 then some n else none

def octets? (cs : List Char) : Option (List Nat) := do
  let parts := Text.splitAt (· == '.') cs
  if parts.length = 4 then parts.mapM octet? else none

def group? (cs : List Char) : Option Nat :=
  if cs.isEmpty ∨ 4 < cs.length then none else (cs.mapM Text.hexValue?).map (Text.number 16)

def groupList? : List (List Char) → Option (List Nat)
  | [] => some []
  | [last] =>
    match octets? last with
    | some [a, b, c, d] => some [a * 256 + b, c * 256 + d]
    | _ => (group? last).map ([·])
  | part :: parts => do return (← group? part) :: (← groupList? parts)

def groups? (cs : List Char) : Option (List Nat) :=
  if cs.isEmpty then some [] else groupList? (Text.splitAt (· == ':') cs)

def splitGap : List Char → Option (List Char × List Char)
  | ':' :: ':' :: rest => some ([], rest)
  | c :: rest => (splitGap rest).map fun (before, behind) => (c :: before, behind)
  | [] => none

def parseV6? (cs : List Char) : Option (List Nat) :=
  match splitGap cs with
  | none => (groups? cs).filter (·.length = 8)
  | some (before, behind) => do
    if before.contains '.' then none
    let (left, right) := (← groups? before, ← groups? behind)
    let known := left.length + right.length
    if known < 8 then some (left ++ List.replicate (8 - known) 0 ++ right) else none

def parse? (cs : List Char) : Option IpAddress :=
  match octets? cs with
  | some octets => some (.v4 octets)
  | none => (parseV6? cs).map .v6

def zeros (groups : List Nat) : Nat := (groups.takeWhile (· == 0)).length

def longestGap (groups : List Nat) : Nat × Nat :=
  (List.range groups.length).foldl
    (fun best start =>
      let length := zeros (groups.drop start)
      if best.2 < length then (start, length) else best)
    (0, 0)

def groupText (groups : List Nat) : String :=
  ":".intercalate (groups.map fun g => String.ofList (Nat.toDigits 16 g))

def textV6 (groups : List Nat) : String :=
  let (start, length) := longestGap groups
  if length < 2 then groupText groups
  else s!"{groupText (groups.take start)}::{groupText (groups.drop (start + length))}"

def text : IpAddress → String
  | .v4 octets => ".".intercalate (octets.map toString)
  | .v6 groups => textV6 groups

end IpAddress

end EventRelay
