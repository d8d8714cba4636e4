namespace EventRelay

abbrev Bytes := List UInt8

namespace Bytes

def ofString (s : String) : Bytes := s.toUTF8.toList

def toString? (bytes : Bytes) : Option String := String.fromUTF8? ⟨bytes.toArray⟩

/-- The second byte of a sequence, which rules out surrogates, overlong forms and large values. -/
def secondByteOk (first second : UInt8) : Bool :=
  if first = 0xE0 then 0xA0 ≤ second && second ≤ 0xBF
  else if first = 0xED then 0x80 ≤ second && second ≤ 0x9F
  else if first = 0xF0 then 0x90 ≤ second && second ≤ 0xBF
  else if first = 0xF4 then 0x80 ≤ second && second ≤ 0x8F
  else 0x80 ≤ second && second ≤ 0xBF

def isContinuation (b : UInt8) : Bool := 0x80 ≤ b && b ≤ 0xBF

def following? (first : UInt8) : Option Nat :=
  if first < 0x80 then some 0
  else if 0xC2 ≤ first && first ≤ 0xDF then some 1
  else if 0xE0 ≤ first && first ≤ 0xEF then some 2
  else if 0xF0 ≤ first && first ≤ 0xF4 then some 3
  else none

def continued (first : UInt8) (count : Nat) (bytes : Bytes) : Bytes :=
  match bytes with
  | [] => []
  | second :: more =>
    if count = 0 ∨ ¬ secondByteOk first second then []
    else second :: (more.take (count - 1)).takeWhile isContinuation

def lossyFrom (read : List Char) : (bytes : Bytes) → List Char
  | [] => read.reverse
  | first :: rest =>
    match following? first with
    | none => lossyFrom ('\uFFFD' :: read) rest
    | some count =>
      let more := continued first count rest
      let c := if more.length = count then
          ((toString? (first :: more)).bind (·.toList.head?)).getD '\uFFFD'
        else '\uFFFD'
      lossyFrom (c :: read) (rest.drop more.length)
termination_by bytes => bytes.length
decreasing_by all_goals simp only [List.length_cons, List.length_drop]; omega

def toStringLossy (bytes : Bytes) : String := String.ofList (lossyFrom [] bytes)

end Bytes

end EventRelay
