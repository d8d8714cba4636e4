namespace EventRelay

structure Binary64 where
  mantissa : Nat
  exponent : Int
  deriving DecidableEq, Repr

def roundHalfEven (num den : Nat) : Nat :=
  let q := num / den
  let r := num % den
  if 2 * r < den then q
  else if den < 2 * r then q + 1
  else if q % 2 = 0 then q else q + 1

namespace Binary64

def full : Nat := 9007199254740992

def halfFull : Nat := 4503599627370496

def zero : Binary64 := ⟨0, -1074⟩

def scaled (num den : Nat) (e : Int) : Nat × Nat :=
  if 0 ≤ e then (num, den * Nat.pow 2 e.toNat) else (num * Nat.pow 2 (-e).toNat, den)

def ofRatio (num den : Nat) : Option Binary64 :=
  if num = 0 then some zero
  else
    let e : Int := max (-1074) ((num.log2 : Int) - den.log2 - 53)
    let (n, d) := scaled num den e
    let e := if full ≤ n / d then e + 1 else e
    let (n, d) := scaled num den e
    let q := roundHalfEven n d
    let x : Binary64 := if q = full then ⟨halfFull, e + 1⟩ else ⟨q, e⟩
    if 971 < x.exponent then none else some x

def ofScaledRatio (num den : Nat) (e : Int) : Option Binary64 :=
  if 0 ≤ e then ofRatio (num * Nat.pow 2 e.toNat) den
  else ofRatio num (den * Nat.pow 2 (-e).toNat)

def ofNat (n : Nat) : Option Binary64 := ofRatio n 1

def mul (x y : Binary64) : Option Binary64 :=
  ofScaledRatio (x.mantissa * y.mantissa) 1 (x.exponent + y.exponent)

def div (x y : Binary64) : Option Binary64 :=
  ofScaledRatio x.mantissa y.mantissa (x.exponent - y.exponent)

def powerOfTen (k : Nat) : Option Binary64 := ofNat (Nat.pow 10 k)

/--
`x * 10 ^ exponent` by one multiplication or division with a rounded power of ten; below the
smallest power the number is first divided by `10 ^ 308`. Nothing when the result is too large.
-/
def scaleByTen (x : Binary64) (exponent : Int) : Option Binary64 :=
  if exponent < -308 then
    if x.mantissa = 0 then some x
    else do
      let y ← x.div (← powerOfTen 308)
      y.scaleByTen (exponent + 308)
  else if exponent < 0 then do x.div (← powerOfTen exponent.natAbs)
  else if exponent ≤ 308 then do x.mul (← powerOfTen exponent.natAbs)
  else if x.mantissa = 0 then some x
  else none
termination_by exponent.natAbs
decreasing_by omega

end Binary64

end EventRelay
