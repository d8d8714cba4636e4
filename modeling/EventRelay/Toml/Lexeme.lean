import EventRelay.Decimal.Binary64
import EventRelay.Text.Number
import EventRelay.Toml.Value

/-!
The lexical level of TOML: blanks and comments, keys, strings, numbers and dates. Every reader
takes the unread text and answers with what it has read and what is left.
-/

namespace EventRelay.Toml

abbrev Reader (α : Type) := List Char → Option (α × List Char)

def isSpace (c : Char) : Bool := c == ' ' || c == '\t'

def skipSpace (s : List Char) : List Char := s.dropWhile isSpace

def isDigit (c : Char) : Bool := '0' ≤ c && c ≤ '9'

def digitValue (c : Char) : Nat :=
  if isDigit c then c.toNat - 48
  else if 'a' ≤ c ∧ c ≤ 'z' then c.toNat - 87
  else c.toNat - 55

def isHexDigit (c : Char) : Bool := isDigit c || ('a' ≤ c && c ≤ 'f') || ('A' ≤ c && c ≤ 'F')

def newline? : List Char → Option (List Char)
  | '\n' :: s => some s
  | '\r' :: '\n' :: s => some s
  | _ => none

def isText (c : Char) : Bool := c == '\t' || (0x20 ≤ c.toNat && c.toNat != 0x7F)

def skipComment : List Char → List Char
  | '#' :: s => s.dropWhile isText
  | s => s

def endLine (s : List Char) : Option (List Char) :=
  match skipComment (skipSpace s) with
  | [] => some []
  | s => newline? s

def skipLines : (fuel : Nat) → List Char → List Char
  | 0, s => s
  | fuel + 1, s =>
    let s := skipSpace s
    match newline? (skipComment s) with
    | some s => skipLines fuel s
    | none => s

def skipBreaks : (fuel : Nat) → List Char → List Char
  | 0, s => s
  | fuel + 1, s =>
    match newline? (skipSpace s) with
    | some s => skipBreaks fuel s
    | none => skipSpace s

def readCode (count : Nat) (s : List Char) : Option (Char × List Char) :=
  let digits := s.take count
  if digits.length = count ∧ digits.all isHexDigit then
    let n := digits.foldl (fun n d => n * 16 + digitValue d) 0
    if n.isValidChar then some (Char.ofNat n, s.drop count) else none
  else none

def readEscape : List Char → Option (Char × List Char)
  | 'b' :: s => some ('\x08', s)
  | 't' :: s => some ('\t', s)
  | 'n' :: s => some ('\n', s)
  | 'f' :: s => some ('\x0c', s)
  | 'r' :: s => some ('\r', s)
  | '"' :: s => some ('"', s)
  | '\\' :: s => some ('\\', s)
  | 'u' :: s => readCode 4 s
  | 'U' :: s => readCode 8 s
  | _ => none

def readBasic (read : List Char) : (fuel : Nat) → Reader (List Char)
  | 0, _ => none
  | _, [] => none
  | fuel + 1, c :: s =>
    if c = '"' then some (read.reverse, s)
    else if c = '\\' then do
      let (d, s) ← readEscape s
      readBasic (d :: read) fuel s
    else if isText c then readBasic (c :: read) fuel s
    else none

def readLiteral (s : List Char) : Option (List Char × List Char) :=
  let body := s.takeWhile fun c => isText c && c != '\x27'
  match s.drop body.length with
  | '\x27' :: s => some (body, s)
  | _ => none

def countQuotes (quote : Char) (s : List Char) : Nat := (s.takeWhile (· == quote)).length

/--
A string over several lines, behind its opening quotes. Up to two quotes may stand before the
closing three; a backslash at the end of a line joins it with the next text.
-/
def readLong (quote : Char) (read : List Char) : (fuel : Nat) → Reader (List Char)
  | 0, _ => none
  | _, [] => none
  | fuel + 1, c :: s =>
    if c = quote then
      let n := countQuotes quote (c :: s)
      if n < 3 then readLong quote (List.replicate n quote ++ read) fuel ((c :: s).drop n)
      else
        let extra := min (n - 3) 2
        some ((List.replicate extra quote ++ read).reverse, (c :: s).drop (extra + 3))
    else if c = '\\' ∧ quote = '"' then
      match newline? (skipSpace s) with
      | some t => readLong quote read fuel (skipBreaks t.length t)
      | none => do
        let (d, s) ← readEscape s
        readLong quote (d :: read) fuel s
    else match newline? (c :: s) with
      | some t => readLong quote ('\n' :: read) fuel t
      | none => if isText c then readLong quote (c :: read) fuel s else none

def dropNewline (s : List Char) : List Char := (newline? s).getD s

def readString (s : List Char) : Option (String × List Char) := do
  let fuel := s.length + 1
  let (cs, rest) ← match s with
    | '"' :: '"' :: '"' :: s => readLong '"' [] fuel (dropNewline s)
    | '"' :: s => readBasic [] fuel s
    | '\x27' :: '\x27' :: '\x27' :: s => readLong '\x27' [] fuel (dropNewline s)
    | '\x27' :: s => readLiteral s
    | _ => none
  some (String.ofList cs, rest)

def isBare (c : Char) : Bool := c.isAlphanum || c == '-' || c == '_'

def readSimpleKey (s : List Char) : Option (String × List Char) :=
  match s with
  | '"' :: t => do
    let (cs, rest) ← readBasic [] (t.length + 1) t
    some (String.ofList cs, rest)
  | '\x27' :: t => do
    let (cs, rest) ← readLiteral t
    some (String.ofList cs, rest)
  | s =>
    let name := s.takeWhile isBare
    if name.isEmpty then none else some (String.ofList name, s.dropWhile isBare)

def keyLimit : Nat := 80

def readNames (read : List String) : (fuel : Nat) → Reader (List String)
  | 0, _ => none
  | fuel + 1, s => do
    let (name, s) ← readSimpleKey (skipSpace s)
    match skipSpace s with
    | '.' :: s => readNames (name :: read) fuel s
    | s => some ((name :: read).reverse, s)

def readKey (s : List Char) : Option (List String × List Char) := do
  let (names, s) ← readNames [] (s.length + 1) s
  if names.length < keyLimit then some (names, s) else none

def readDigits (ok : Char → Bool) (read : List Char) : (fuel : Nat) → Reader (List Char)
  | 0, _ => none
  | fuel + 1, s =>
    match s with
    | '_' :: c :: t =>
      if ¬ read.isEmpty ∧ ok c then readDigits ok (c :: read) fuel t
      else if read.isEmpty then none else some (read.reverse, s)
    | c :: t =>
      if ok c then readDigits ok (c :: read) fuel t
      else if read.isEmpty then none else some (read.reverse, s)
    | [] => if read.isEmpty then none else some (read.reverse, [])

def digitsOf (ok : Char → Bool) (s : List Char) : Option (List Char × List Char) :=
  readDigits ok [] (s.length + 1) s

def numberOf (base : Nat) (digits : List Char) : Nat :=
  digits.foldl (fun n d => n * base + digitValue d) 0

def inRange (n : Int) : Bool := -Text.maxSigned64 - 1 ≤ n && n ≤ Text.maxSigned64

def readBased (base : Nat) (ok : Char → Bool) (s : List Char) : Option (Value × List Char) := do
  let (digits, s) ← digitsOf ok s
  let n : Int := numberOf base digits
  if inRange n then some (.integer n, s) else none

def readSign : List Char → Bool × List Char
  | '+' :: s => (false, s)
  | '-' :: s => (true, s)
  | s => (false, s)

def readDecimal (s : List Char) : Option (List Char × List Char) :=
  match s with
  | '0' :: s => some (['0'], s)
  | s => digitsOf isDigit s

def readExponent (s : List Char) : Option (Int × List Char) := do
  match s with
  | 'e' :: s | 'E' :: s =>
    let (minus, s) := readSign s
    let (digits, s) ← digitsOf isDigit s
    let n : Int := numberOf 10 digits
    some (if minus then -n else n, s)
  | _ => none

def maxDigits : Nat := 309

def isFinite (digits : List Char) (exponent : Int) : Bool :=
  let digits := digits.dropWhile (· == '0')
  let size := digits.length + exponent
  if digits.isEmpty ∨ size < maxDigits then true
  else if maxDigits < size then false
  else
    let (n, scale) := (numberOf 10 digits, Nat.pow 10 exponent.natAbs)
    (if exponent < 0 then Binary64.ofRatio n scale else Binary64.ofRatio (n * scale) 1).isSome

/-- A number with a fraction or an exponent, or a name of a special one. Only plus infinity that
comes from a number too large is refused. -/
def readFloat (s : List Char) : Option (Value × List Char) :=
  let (minus, t) := readSign s
  match t with
  | 'i' :: 'n' :: 'f' :: t => some (.float, t)
  | 'n' :: 'a' :: 'n' :: t => some (.float, t)
  | _ => do
    let (whole, t) ← readDecimal t
    let (fraction, t, pointed) ← match t with
      | '.' :: t => do
        let (digits, t) ← digitsOf isDigit t
        some (digits, t, true)
      | t => some ([], t, false)
    let (exponent, t) ← match t with
      | 'e' :: _ | 'E' :: _ => readExponent t
      | t => if pointed then some (0, t) else none
    if minus ∨ isFinite (whole ++ fraction) (exponent - fraction.length) then some (.float, t)
    else none

def readInteger (s : List Char) : Option (Value × List Char) :=
  match s with
  | '0' :: 'x' :: s => readBased 16 isHexDigit s
  | '0' :: 'o' :: s => readBased 8 (fun c => '0' ≤ c && c ≤ '7') s
  | '0' :: 'b' :: s => readBased 2 (fun c => c == '0' || c == '1') s
  | s => do
    let (minus, s) := readSign s
    let (digits, s) ← readDecimal s
    let n : Int := numberOf 10 digits
    let n := if minus then -n else n
    if inRange n then some (.integer n, s) else none

def readFixed (count : Nat) (s : List Char) : Option (Nat × List Char) :=
  let digits := s.take count
  if digits.length = count ∧ digits.all isDigit then some (numberOf 10 digits, s.drop count)
  else none

def expect (c : Char) : List Char → Option (List Char)
  | d :: s => if d = c then some s else none
  | [] => none

def daysInMonth (year month : Nat) : Nat :=
  if month = 2 then
    if year % 4 = 0 ∧ (year % 100 ≠ 0 ∨ year % 400 = 0) then 29 else 28
  else if month = 4 ∨ month = 6 ∨ month = 9 ∨ month = 11 then 30
  else 31

def skipDate (s : List Char) : Option (List Char) := do
  let (year, s) ← readFixed 4 s
  let (month, s) ← readFixed 2 (← expect '-' s)
  let (day, s) ← readFixed 2 (← expect '-' s)
  if 1 ≤ month ∧ month ≤ 12 ∧ 1 ≤ day ∧ day ≤ daysInMonth year month then some s else none

def skipTime (s : List Char) : Option (List Char) := do
  let (hour, s) ← readFixed 2 s
  let (minute, s) ← readFixed 2 (← expect ':' s)
  let (second, s) ← readFixed 2 (← expect ':' s)
  if 23 < hour ∨ 59 < minute ∨ 60 < second then none
  else match s with
    | '.' :: t => if t.head?.any isDigit then some (t.dropWhile isDigit) else none
    | s => some s

def skipOffset (s : List Char) : Option (List Char) :=
  match s with
  | 'Z' :: s | 'z' :: s => some s
  | '+' :: s | '-' :: s => do
    let (hour, s) ← readFixed 2 s
    let (minute, s) ← readFixed 2 (← expect ':' s)
    if hour ≤ 23 ∧ minute ≤ 59 then some s else none
  | _ => none

def readDate (s : List Char) : Option (Value × List Char) :=
  match skipDate s with
  | some s =>
    let rest := match s with
      | 'T' :: t | 't' :: t | ' ' :: t =>
        match skipTime t with
        | some t => (skipOffset t).getD t
        | none => s
      | s => s
    some (.date, rest)
  | none => (skipTime s).map fun s => (.date, s)

def readNumber (s : List Char) : Option (Value × List Char) :=
  readDate s <|> readFloat s <|> readInteger s

end EventRelay.Toml
