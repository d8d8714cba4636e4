import EventRelay.Text.Number

namespace EventRelay.DomainName.Punycode

def digit (n : Nat) : Char :=
  if n < 26 then Char.ofNat (97 + n) else Char.ofNat (22 + n)

def threshold (k bias : Nat) : Nat :=
  if k ≤ bias then 1 else if bias + 26 ≤ k then 26 else k - bias

theorem threshold_pos (k bias : Nat) : 1 ≤ threshold k bias := by
  unfold threshold
  split
  · omega
  · split <;> omega

def scale (delta places : Nat) : Nat :=
  if 455 < delta then scale (delta / 35) (places + 36) else places + 36 * delta / (delta + 38)
termination_by delta
decreasing_by omega

def adapt (delta written : Nat) (isFirst : Bool) : Nat :=
  let delta := if isFirst then delta / 700 else delta / 2
  scale (delta + delta / written) 0

def firstPoint : Nat := 128

def firstBias : Nat := 72

def number (bias k q : Nat) : List Char :=
  let t := threshold k bias
  if q < t then [digit q]
  else digit (t + (q - t) % (36 - t)) :: number bias (k + 36) ((q - t) / (36 - t))
termination_by q
decreasing_by
  have pos := threshold_pos k bias
  exact Nat.lt_of_le_of_lt (Nat.div_le_self _ _) (by omega)

structure State where
  written : List Char
  delta : Nat := 0
  bias : Nat := firstBias
  handled : Nat

def visit (basic next : Nat) (s : State) (c : Char) : State :=
  if c.toNat < next then { s with delta := s.delta + 1 }
  else if c.toNat = next then
    { written := s.written ++ number s.bias 36 s.delta
      delta := 0
      bias := adapt s.delta (s.handled + 1) (s.handled == basic)
      handled := s.handled + 1 }
  else s

def extend (label : List Char) (basic : Nat) : (points : List Nat) → (start : Nat) → State → State
  | [], _, s => s
  | next :: points, start, s =>
    let s := { s with delta := s.delta + (next - start) * (s.handled + 1) }
    let s := label.foldl (visit basic next) s
    extend label basic points (next + 1) { s with delta := s.delta + 1 }

def encode (label : List Char) : List Char :=
  let plain := label.filter (·.toNat < firstPoint)
  let points := ((label.map Char.toNat).filter (firstPoint ≤ ·)).mergeSort.eraseDups
  let written := if plain.isEmpty then [] else plain ++ ['-']
  (extend label plain.length points firstPoint { written, handled := plain.length }).written

def digitValue? (c : Char) : Option Nat :=
  if c.isAlpha then some (c.toLower.toNat - 97)
  else if c.isDigit then some (c.toNat - 22)
  else none

def readNumber? (bias k weight n : Nat) : List Char → Option (Nat × List Char)
  | [] => none
  | c :: cs =>
    match digitValue? c with
    | none => none
    | some d =>
      let (n, t) := (n + d * weight, threshold k bias)
      if Text.max32 < n then none
      else if d < t then some (n, cs)
      else if Text.max32 < weight * (36 - t) then none
      else readNumber? bias (k + 36) (weight * (36 - t)) n cs

theorem readNumber?_length {bias k weight n m : Nat} {cs rest : List Char}
    (h : readNumber? bias k weight n cs = some (m, rest)) : rest.length < cs.length := by
  fun_induction readNumber? bias k weight n cs <;> simp_all
  omega

def char? (n : Nat) : Option Char := if n.isValidChar then some (Char.ofNat n) else none

def insertAll? (written : List Char) (point n bias : Nat) (digits : List Char) :
    Option (List Char) :=
  if digits.isEmpty then some written
  else
    match h : readNumber? bias 36 1 n digits with
    | none => none
    | some (m, rest) =>
      have : rest.length < digits.length := readNumber?_length h
      let places := written.length + 1
      let point := point + m / places
      match char? point with
      | none => none
      | some c =>
        let written := written.insertIdx (m % places) c
        insertAll? written point (m % places + 1) (adapt (m - n) places (n == 0)) rest
termination_by digits.length

def decode? (encoded : List Char) : Option (List Char) :=
  let reversed := encoded.reverse
  let digits := (reversed.takeWhile (· != '-')).reverse
  match reversed.dropWhile (· != '-') with
  | [] => insertAll? [] firstPoint 0 firstBias digits
  | [_] => none
  | _ :: plain => insertAll? plain.reverse firstPoint 0 firstBias digits

end EventRelay.DomainName.Punycode
