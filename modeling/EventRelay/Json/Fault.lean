namespace EventRelay.Json

inductive Complaint
  | endInList
  | endInObject
  | endInString
  | endInValue
  | expectedColon
  | expectedListCommaOrEnd
  | expectedObjectCommaOrEnd
  | expectedIdent
  | expectedValue
  | invalidEscape
  | invalidNumber
  | numberOutOfRange
  | controlCharacter
  | keyNotString
  | loneSurrogate
  | trailingComma
  | trailingCharacters
  | unfinishedPair
  | tooDeep
  | unsuitable (reason : String)
  deriving DecidableEq, Repr

inductive Complaint.Class
  | truncated
  | malformed
  | unsuitable
  deriving DecidableEq, Repr

def Complaint.kind : Complaint → Complaint.Class
  | .endInList | .endInObject | .endInString | .endInValue => .truncated
  | .unsuitable _ => .unsuitable
  | _ => .malformed

def Complaint.message : Complaint → String
  | .endInList => "EOF while parsing a list"
  | .endInObject => "EOF while parsing an object"
  | .endInString => "EOF while parsing a string"
  | .endInValue => "EOF while parsing a value"
  | .expectedColon => "expected `:`"
  | .expectedListCommaOrEnd => "expected `,` or `]`"
  | .expectedObjectCommaOrEnd => "expected `,` or `\x7d`"
  | .expectedIdent => "expected ident"
  | .expectedValue => "expected value"
  | .invalidEscape => "invalid escape"
  | .invalidNumber => "invalid number"
  | .numberOutOfRange => "number out of range"
  | .controlCharacter =>
    "control character (\\u0000-\\u001F) found while parsing a string"
  | .keyNotString => "key must be a string"
  | .loneSurrogate => "lone leading surrogate in hex escape"
  | .trailingComma => "trailing comma"
  | .trailingCharacters => "trailing characters"
  | .unfinishedPair => "unexpected end of hex escape"
  | .tooDeep => "recursion limit exceeded"
  | .unsuitable reason => reason

/-- The complaint arises `ahead` bytes into `rest`. -/
structure Fault where
  complaint : Complaint
  rest : List Char
  ahead : Nat
  deriving DecidableEq, Repr

def Fault.next (complaint : Complaint) (rest : List Char) : Fault := ⟨complaint, rest, 1⟩

def Fault.here (complaint : Complaint) (rest : List Char) : Fault := ⟨complaint, rest, 0⟩

structure Position where
  line : Nat
  column : Nat
  deriving DecidableEq, Repr

def byteCount (cs : List Char) : Nat := cs.foldl (fun n c => n + c.utf8Size) 0

def Position.after (p : Position) : (bytes : Nat) → List Char → Position
  | 0, _ => p
  | _, [] => p
  | bytes, c :: cs =>
    if bytes < c.utf8Size then { p with column := p.column + bytes }
    else
      let p := if c = '\n' then ⟨p.line + 1, 0⟩ else { p with column := p.column + c.utf8Size }
      p.after (bytes - c.utf8Size) cs

def Fault.position (fault : Fault) (text : List Char) : Position :=
  Position.after ⟨1, 0⟩ (byteCount text - byteCount fault.rest + fault.ahead) text

def Position.describe (p : Position) : String :=
  s!"line {p.line} column {p.column}"

def Fault.describe (fault : Fault) (text : List Char) : String :=
  s!"{fault.complaint.message} at {(fault.position text).describe}"

end EventRelay.Json
