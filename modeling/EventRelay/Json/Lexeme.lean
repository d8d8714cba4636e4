import EventRelay.Decimal.Binary64
import EventRelay.Json.Fault
import EventRelay.Text.Number

namespace EventRelay.Json

def isSpace (c : Char) : Bool := c == ' ' || c == '\n' || c == '\t' || c == '\r'

def skipSpace (s : List Char) : List Char := s.dropWhile isSpace

def readWord : (word : List Char) → List Char → Except Fault (List Char)
  | [], s => .ok s
  | _ :: _, [] => .error (.here .endInValue [])
  | w :: word, c :: s => if c = w then readWord word s else .error (.next .expectedIdent (c :: s))

/-- Four digits of base sixteen; four bytes are taken whether they are digits or not. -/
def readHex : List Char → Except Fault (Nat × List Char)
  | a :: b :: c :: d :: s =>
    match [a, b, c, d].mapM Text.hexValue? with
    | some digits => .ok (Text.number 16 digits, s)
    | none => .error ⟨.invalidEscape, a :: b :: c :: d :: s, 4⟩
  | s =>
    if byteCount s < 4 then .error (.here .endInString []) else .error ⟨.invalidEscape, s, 4⟩

def readLowSurrogate (high : Nat) : List Char → Except Fault (Char × List Char)
  | [] => .error (.here .endInString [])
  | '\\' :: 'u' :: s => do
    let (low, s) ← readHex s
    if low < 0xDC00 ∨ 0xDFFF < low then .error (.here .loneSurrogate s)
    else .ok (Char.ofNat ((high - 0xD800) * 0x400 + (low - 0xDC00) + 0x10000), s)
  | ['\\'] => .error (.here .endInString [])
  | '\\' :: s => .error (.next .unfinishedPair s)
  | s => .error (.next .unfinishedPair s)

def readUnicodeEscape (s : List Char) : Except Fault (Char × List Char) := do
  let (n, s) ← readHex s
  if 0xDC00 ≤ n ∧ n ≤ 0xDFFF then .error (.here .loneSurrogate s)
  else if 0xD800 ≤ n ∧ n ≤ 0xDBFF then readLowSurrogate n s
  else .ok (Char.ofNat n, s)

def simpleEscape? : Char → Option Char
  | '"' => some '"'
  | '\\' => some '\\'
  | '/' => some '/'
  | 'b' => some '\x08'
  | 'f' => some '\x0c'
  | 'n' => some '\n'
  | 'r' => some '\r'
  | 't' => some '\t'
  | _ => none

def readEscape : List Char → Except Fault (Char × List Char)
  | [] => .error (.here .endInString [])
  | c :: s =>
    match simpleEscape? c with
    | some d => .ok (d, s)
    | none => if c = 'u' then readUnicodeEscape s else .error (.next .invalidEscape (c :: s))

theorem readHex_length {s t : List Char} {n : Nat} (h : readHex s = .ok (n, t)) :
    t.length < s.length := by
  unfold readHex at h
  split at h
  · split at h
    · simp only [Except.ok.injEq, Prod.mk.injEq] at h
      obtain ⟨_, rfl⟩ := h
      simp only [List.length_cons]
      omega
    · simp at h
  · split at h <;> simp at h

theorem readLowSurrogate_length {high : Nat} {s t : List Char} {c : Char}
    (h : readLowSurrogate high s = .ok (c, t)) : t.length < s.length := by
  unfold readLowSurrogate at h
  split at h
  · simp at h
  · next s =>
    cases hr : readHex s with
    | error e => simp [hr, bind, Except.bind] at h
    | ok p =>
      obtain ⟨low, s'⟩ := p
      have := readHex_length hr
      simp only [hr, bind, Except.bind] at h
      split at h
      · simp at h
      · simp only [Except.ok.injEq, Prod.mk.injEq] at h
        obtain ⟨_, rfl⟩ := h
        simp only [List.length_cons]
        omega
  · simp at h
  · simp at h
  · simp at h

theorem readUnicodeEscape_length {s t : List Char} {c : Char}
    (h : readUnicodeEscape s = .ok (c, t)) : t.length < s.length := by
  unfold readUnicodeEscape at h
  cases hr : readHex s with
  | error e => simp [hr, bind, Except.bind] at h
  | ok p =>
    obtain ⟨n, s'⟩ := p
    have := readHex_length hr
    simp only [hr, bind, Except.bind] at h
    split at h
    · simp at h
    · split at h
      · have := readLowSurrogate_length h
        omega
      · simp only [Except.ok.injEq, Prod.mk.injEq] at h
        obtain ⟨_, rfl⟩ := h
        assumption

theorem readEscape_length {s t : List Char} {c : Char} (h : readEscape s = .ok (c, t)) :
    t.length < s.length := by
  unfold readEscape at h
  split at h
  · simp at h
  · split at h
    · simp only [Except.ok.injEq, Prod.mk.injEq] at h
      obtain ⟨_, rfl⟩ := h
      simp
    · split at h
      · have := readUnicodeEscape_length h
        simp only [List.length_cons]
        omega
      · simp at h

def readStringFrom (read : List Char) (s : List Char) : Except Fault (List Char × List Char) :=
  match s with
  | [] => .error (.here .endInString [])
  | c :: s =>
    if c = '"' then .ok (read.reverse, s)
    else if c = '\\' then
      match h : readEscape s with
      | .error e => .error e
      | .ok (d, t) =>
        have : t.length < s.length := readEscape_length h
        readStringFrom (d :: read) t
    else if c.toNat < 0x20 then .error (.next .controlCharacter (c :: s))
    else readStringFrom (c :: read) s
termination_by s.length

def readString (s : List Char) : Except Fault (String × List Char) := do
  let (cs, s) ← readStringFrom [] s
  .ok (String.ofList cs, s)

inductive Numeral
  | natural (n : Nat)
  | negative (n : Nat)
  | real (minus : Bool) (x : Binary64)
  deriving DecidableEq, Repr

def isDigit (c : Char) : Bool := '0' ≤ c && c ≤ '9'

def digitValue (c : Char) : Nat := c.toNat - '0'.toNat

def gatherDigits (n : Nat) : List Char → Nat × Nat
  | [] => (n, 0)
  | d :: ds =>
    let m := n * 10 + digitValue d
    if Text.max64 < m then (n, ds.length + 1) else gatherDigits m ds

def gatherExponent (n : Nat) : List Char → Option Nat
  | [] => some n
  | d :: ds =>
    let m := n * 10 + digitValue d
    if Text.maxSigned32 < m then none else gatherExponent m ds

def makeReal (minus : Bool) (significand : Nat) (exponent : Int) (s : List Char) :
    Except Fault (Numeral × List Char) :=
  match (Binary64.ofNat significand).bind (·.scaleByTen exponent) with
  | some x => .ok (.real minus x, s)
  | none => .error (.here .numberOutOfRange s)

/-- Drops digits up to and including the one at which the exponent outgrows 31 bits. -/
def skipOverlong (n : Nat) : List Char → List Char
  | [] => []
  | d :: ds =>
    let m := n * 10 + digitValue d
    if Text.maxSigned32 < m then ds else skipOverlong m ds

def splitSign : List Char → Bool × List Char
  | '+' :: s => (false, s)
  | '-' :: s => (true, s)
  | s => (false, s)

def readExponent (minus : Bool) (significand : Nat) (scale : Int) (s : List Char) :
    Except Fault (Numeral × List Char) :=
  let (down, s) := splitSign s
  match s with
  | [] => .error (.here .endInValue [])
  | c :: rest =>
    if isDigit c then
      let digits := (c :: rest).takeWhile isDigit
      let after := (c :: rest).dropWhile isDigit
      match gatherExponent 0 digits with
      | some n => makeReal minus significand (if down then scale - n else scale + n) after
      | none =>
        if significand ≠ 0 ∧ down = false then
          .error (.here .numberOutOfRange (skipOverlong 0 digits ++ after))
        else .ok (.real minus .zero, after)
    else .error (.next .invalidNumber (c :: rest))

def readFraction (minus : Bool) (significand : Nat) (scale : Int) (s : List Char) :
    Except Fault (Numeral × List Char) :=
  let digits := s.takeWhile isDigit
  let after := s.dropWhile isDigit
  if digits.isEmpty then
    .error (.next (if after.isEmpty then .endInValue else .invalidNumber) after)
  else
    let (n, left) := gatherDigits significand digits
    let scale := scale - (digits.length - left : Nat)
    match after with
    | 'e' :: s | 'E' :: s => readExponent minus n scale s
    | _ => makeReal minus n scale after

def readNumber (minus : Bool) (s : List Char) : Except Fault (Numeral × List Char) :=
  match s with
  | [] => .error (.here .endInValue [])
  | c :: rest =>
    if ¬ isDigit c then .error (.next .invalidNumber (c :: rest))
    else
      let digits := if c = '0' then [c] else (c :: rest).takeWhile isDigit
      let after := if c = '0' then rest else (c :: rest).dropWhile isDigit
      if c = '0' ∧ after.head?.any isDigit then .error (.next .invalidNumber after)
      else
        let (n, left) := gatherDigits 0 digits
        match after with
        | '.' :: s => readFraction minus n left s
        | 'e' :: s | 'E' :: s => readExponent minus n left s
        | _ =>
          if 0 < left then makeReal minus n left after
          else if ¬ minus then .ok (.natural n, after)
          else if 0 < n ∧ n ≤ Text.maxSigned64 + 1 then .ok (.negative n, after)
          else makeReal minus n 0 after

end EventRelay.Json
