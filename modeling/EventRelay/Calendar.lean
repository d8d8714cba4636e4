namespace EventRelay.Calendar

def secondsPerDay : Nat := 86400

structure Date where
  year : Int
  month : Nat
  day : Nat
  deriving DecidableEq, Repr

/--
The date of a day counted from the first of January 1970. Years are counted from March, so that
the leap day comes last, in eras of 400 years.
-/
def Date.ofDay (days : Int) : Date :=
  let z := days + 719468
  let era := z.fdiv 146097
  let dayOfEra := (z - era * 146097).toNat
  let yearOfEra :=
    (dayOfEra - dayOfEra / 1460 + dayOfEra / 36524 - dayOfEra / 146096) / 365
  let dayOfYear := dayOfEra - (365 * yearOfEra + yearOfEra / 4 - yearOfEra / 100)
  let shifted := (5 * dayOfYear + 2) / 153
  let day := dayOfYear - (153 * shifted + 2) / 5 + 1
  let month := if shifted < 10 then shifted + 3 else shifted - 9
  let year : Int := yearOfEra + era * 400 + (if month ≤ 2 then 1 else 0)
  ⟨year, month, day⟩

def pad (width n : Nat) : String :=
  let digits := toString n
  String.ofList (List.replicate (width - digits.length) '0') ++ digits

def renderYear (year : Int) : String :=
  if year < 0 then "-" ++ pad 4 year.natAbs
  else if 9999 < year then "+" ++ toString year
  else pad 4 year.toNat

def render (seconds : Int) : String :=
  let days := seconds.fdiv secondsPerDay
  let time := (seconds - days * secondsPerDay).toNat
  let date := Date.ofDay days
  s!"{renderYear date.year}-{pad 2 date.month}-{pad 2 date.day} " ++
    s!"{pad 2 (time / 3600)}:{pad 2 (time / 60 % 60)}:{pad 2 (time % 60)}"

end EventRelay.Calendar
