import EventRelay.Decimal.Binary64

namespace EventRelay.Binary64

structure Decimal where
  digits : Nat
  exponent : Int
  deriving DecidableEq

def compareDecimal (a : Nat) (p : Int) (b : Nat) (q : Int) : Ordering :=
  let left := a * Nat.pow 10 p.toNat * Nat.pow 2 (-q).toNat
  let right := b * Nat.pow 2 q.toNat * Nat.pow 10 (-p).toNat
  compare left right

/-- Whether a decimal rounds to the number. Bounds are counted in quarters of the last place. -/
def roundsTo (x : Binary64) (d : Decimal) : Bool :=
  let quarter := x.exponent - 2
  let low := if x.mantissa = halfFull ∧ -1074 < x.exponent then 4 * x.mantissa - 1
    else 4 * x.mantissa - 2
  let high := 4 * x.mantissa + 2
  let closed := x.mantissa % 2 = 0
  let above := compareDecimal d.digits d.exponent low quarter
  let below := compareDecimal d.digits d.exponent high quarter
  (above == .gt || (closed && above == .eq)) && (below == .lt || (closed && below == .eq))

def decimalExponent (x : Binary64) : Nat → Int → Int
  | 0, k => k
  | fuel + 1, k =>
    if compareDecimal 1 (k + 1) x.mantissa x.exponent == .gt then k
    else x.decimalExponent fuel (k + 1)

def overPower (x : Binary64) (p : Int) : Nat × Nat :=
  (x.mantissa * Nat.pow 2 x.exponent.toNat * Nat.pow 10 (-p).toNat,
    Nat.pow 10 p.toNat * Nat.pow 2 (-x.exponent).toNat)

def gridPoint? (x : Binary64) (p : Int) : Option Decimal :=
  let (n, d) := x.overPower p
  let below : Decimal := ⟨n / d, p⟩
  let above : Decimal := ⟨n / d + 1, p⟩
  match x.roundsTo below, x.roundsTo above with
  | true, true => some ⟨roundHalfEven n d, p⟩
  | true, false => some below
  | false, true => some above
  | false, false => none

def shortestFrom (x : Binary64) (top : Int) : Nat → Nat → Decimal
  | 0, used => ⟨0, top - used⟩
  | left + 1, used =>
    match x.gridPoint? (top - used) with
    | some d => d
    | none => x.shortestFrom top left (used + 1)

def shortest (x : Binary64) : Decimal :=
  x.shortestFrom (x.decimalExponent 700 (-330)) 18 0

def Decimal.normalize (d : Decimal) : Nat → Decimal
  | 0 => d
  | fuel + 1 =>
    if d.digits ≠ 0 ∧ d.digits % 10 = 0 then
      Decimal.normalize ⟨d.digits / 10, d.exponent + 1⟩ fuel
    else d

def zeros (n : Nat) : List Char := List.replicate n '0'

def Decimal.render (d : Decimal) : List Char :=
  let digits := Nat.toDigits 10 d.digits
  let point : Int := digits.length + d.exponent
  if point < -4 ∨ 16 < point then
    let power := point - 1
    let fraction := match digits.drop 1 with
      | [] => []
      | more => '.' :: more
    let sign := if power < 0 then '-' else '+'
    digits.take 1 ++ fraction ++ 'e' :: sign :: Nat.toDigits 10 power.natAbs
  else if point ≤ 0 then
    '0' :: '.' :: zeros point.natAbs ++ digits
  else if digits.length ≤ point.toNat then
    digits ++ zeros (point.toNat - digits.length) ++ ['.', '0']
  else
    digits.take point.toNat ++ '.' :: digits.drop point.toNat

def toText (negative : Bool) (x : Binary64) : String :=
  let body := if x.mantissa = 0 then ['0', '.', '0'] else (x.shortest.normalize 20).render
  String.ofList (if negative then '-' :: body else body)

end EventRelay.Binary64
