import EventRelay.Json.Skip
import EventRelay.Json.Value
import EventRelay.Text.Quoted

/-!
Reading a JSON text straight into the type that is expected there. The first fault in the order of
the text wins, whether it is one of grammar or of type.
-/

namespace EventRelay.Json

abbrev Reader (α : Type) := List Char → Except Fault (α × List Char)

def Numeral.describe : Numeral → String
  | .natural n => s!"integer `{n}`"
  | .negative n => s!"integer `-{n}`"
  | .real minus x => s!"floating point `{x.toText minus}`"

def wrongType (found expected : String) (rest : List Char) : Fault :=
  .here (.unsuitable s!"invalid type: {found}, expected {expected}") rest

def unexpected (expected : String) (c : Char) (t : List Char) : Fault :=
  let word (rest : Except Fault (List Char)) (found : String) : Fault :=
    match rest with
    | .error e => e
    | .ok rest => wrongType found expected rest
  let number (read : Except Fault (Numeral × List Char)) : Fault :=
    match read with
    | .error e => e
    | .ok (n, rest) => wrongType n.describe expected rest
  if c = 'n' then word (readWord ['u', 'l', 'l'] t) "null"
  else if c = 't' then word (readWord ['r', 'u', 'e'] t) "boolean `true`"
  else if c = 'f' then word (readWord ['a', 'l', 's', 'e'] t) "boolean `false`"
  else if c = '-' then number (readNumber true t)
  else if isDigit c then number (readNumber false (c :: t))
  else if c = '"' then
    match readString t with
    | .error e => e
    | .ok (s, rest) => wrongType s!"string {Text.quoted s}" expected rest
  else if c = '[' then wrongType "sequence" expected (c :: t)
  else if c = '{' then wrongType "map" expected (c :: t)
  else .next .expectedValue (c :: t)

def atValue (s : List Char) (read : Char → Reader α) : Except Fault (α × List Char) :=
  match skipSpace s with
  | [] => .error (.next .endInValue [])
  | c :: t => read c t

def readText (expected : String) : Reader String := fun s => atValue s fun c t =>
  if c = '"' then readString t else .error (unexpected expected c t)

def Numeral.toInt64 (n : Numeral) (rest : List Char) : Except Fault (Int × List Char) :=
  match n with
  | .natural n =>
    if n ≤ Text.maxSigned64 then .ok (n, rest)
    else .error (.here (.unsuitable s!"invalid value: integer `{n}`, expected i64") rest)
  | .negative n => .ok (-n, rest)
  | .real .. => .error (wrongType n.describe "i64" rest)

def readInt64 : Reader Int := fun s => atValue s fun c t =>
  if c = '-' then do
    let (n, rest) ← readNumber true t
    n.toInt64 rest
  else if isDigit c then do
    let (n, rest) ← readNumber false (c :: t)
    n.toInt64 rest
  else .error (unexpected "i64" c t)

def readOptional (read : Reader α) : Reader (Option α) := fun s =>
  match skipSpace s with
  | 'n' :: t => do
    let rest ← readWord ['u', 'l', 'l'] t
    .ok (none, rest)
  | t => do
    let (a, rest) ← read t
    .ok (some a, rest)

def nextElement (first : Bool) (s : List Char) : Except Fault (Bool × List Char) :=
  match skipSpace s with
  | [] => .error (.next .endInList [])
  | c :: t =>
    if c = ']' then .ok (false, c :: t)
    else if first then .ok (true, c :: t)
    else if c = ',' then
      match skipSpace t with
      | [] => .error (.next .endInValue [])
      | d :: u => if d = ']' then .error (.next .trailingComma (d :: u)) else .ok (true, d :: u)
    else .error (.next .expectedListCommaOrEnd (c :: t))

def closeList (s : List Char) : Except Fault (List Char) :=
  match skipSpace s with
  | [] => .error (.next .endInList [])
  | c :: t =>
    if c = ']' then .ok t
    else if c = ',' then
      match skipSpace t with
      | ']' :: u => .error (.next .trailingComma (']' :: u))
      | u => .error (.next .trailingCharacters u)
    else .error (.next .trailingCharacters (c :: t))

def behindList (s : List Char) : List Char :=
  match skipSpace s with
  | ']' :: t => t
  | ',' :: t => skipSpace t
  | t => t

/-- The remaining elements of a list; each takes at least one character, which bounds the fuel. -/
def readElements (read : Reader α) :
    (fuel : Nat) → (first : Bool) → List α → Reader (List α)
  | 0, _, _, s => .error (.here .endInList s)
  | fuel + 1, first, done, s => do
    let (more, s) ← nextElement first s
    if more then
      let (a, s) ← read s
      readElements read fuel false (a :: done) s
    else .ok (done.reverse, s)

def readListBody (read : Reader α) : Reader (List α) := fun s => do
  let (as, s) ← readElements read (s.length + 1) true [] s
  .ok (as, ← closeList s)

def readList (read : Reader α) : Reader (List α) := fun s => atValue s fun c t =>
  if c = '[' then readListBody read t else .error (unexpected "a sequence" c t)

def readColon (s : List Char) : Except Fault (List Char) :=
  match skipSpace s with
  | [] => .error (.next .endInObject [])
  | c :: t => if c = ':' then .ok t else .error (.next .expectedColon (c :: t))

def readMember (read : Reader α) : Reader α := fun s => do read (← readColon s)

def nextKey (first : Bool) (s : List Char) : Except Fault (Option String × List Char) :=
  let key (c : Char) (t : List Char) : Except Fault (Option String × List Char) :=
    if c = '"' then (readString t).map fun (k, rest) => (some k, rest)
    else .error (.next .keyNotString (c :: t))
  match skipSpace s with
  | [] => .error (.next .endInObject [])
  | c :: t =>
    if c = '}' then .ok (none, c :: t)
    else if first then key c t
    else if c = ',' then
      match skipSpace t with
      | [] => .error (.next .endInValue [])
      | d :: u => if d = '}' then .error (.next .trailingComma (d :: u)) else key d u
    else .error (.next .expectedObjectCommaOrEnd (c :: t))

def closeObject (s : List Char) : Except Fault (List Char) :=
  match skipSpace s with
  | [] => .error (.next .endInObject [])
  | c :: t =>
    if c = '}' then .ok t
    else if c = ',' then .error (.next .trailingComma (c :: t))
    else .error (.next .trailingCharacters (c :: t))

def behindObject (s : List Char) : List Char :=
  match skipSpace s with
  | '}' :: t => t
  | t => t

def readMembers (field : String → σ → Reader σ) :
    (fuel : Nat) → (first : Bool) → σ → Reader σ
  | 0, _, _, s => .error (.here .endInObject s)
  | fuel + 1, first, known, s => do
    match ← nextKey first s with
    | (none, s) => .ok (known, s)
    | (some key, s) => do
      let (known, s) ← field key known s
      readMembers field fuel false known s

def readRecord (expected : String) (positional named : Reader α) : Reader α :=
  fun s => atValue s fun c t =>
    if c = '[' then do
      let (a, s) ← positional t
      .ok (a, ← closeList s)
    else if c = '{' then do
      let (a, s) ← named t
      .ok (a, ← closeObject s)
    else .error (unexpected expected c t)

def duplicateField (name : String) (s : List Char) : Fault :=
  .here (.unsuitable s!"duplicate field `{name}`") (behindObject s)

def missingField (name : String) (s : List Char) : Fault :=
  .here (.unsuitable s!"missing field `{name}`") (behindObject s)

def tooShort (length : Nat) (expected : String) (s : List Char) : Fault :=
  .here (.unsuitable s!"invalid length {length}, expected {expected}") (behindList s)

def readOnce (name : String) (known : Option α) (read : Reader α) : Reader (Option α) := fun s =>
  match known with
  | some _ => .error (duplicateField name s)
  | none => do
    let (a, s) ← readMember read s
    .ok (some a, s)

def readNext (first : Bool) (read : Reader α) : Reader (Option α) := fun s => do
  let (more, s) ← nextElement first s
  if more then
    let (a, s) ← read s
    .ok (some a, s)
  else .ok (none, s)

def chooseName (first second : String) (name : String) (rest : List Char) :
    Except Fault (Bool × List Char) :=
  if name = first then .ok (true, rest)
  else if name = second then .ok (false, rest)
  else .error (.here
    (.unsuitable s!"unknown variant `{name}`, expected `{first}` or `{second}`") rest)

def readNull : Reader Unit := fun s => atValue s fun c t =>
  if c = 'n' then do
    let rest ← readWord ['u', 'l', 'l'] t
    .ok ((), rest)
  else .error (unexpected "unit" c t)

def readChoice (first second : String) : Reader Bool := fun s => atValue s fun c t =>
  if c = '{' then do
    let (name, s) ← readText "variant identifier" t
    let (choice, s) ← chooseName first second name s
    let (_, s) ← readMember readNull s
    match skipSpace s with
    | [] => .error (.here .endInObject [])
    | d :: u => if d = '}' then .ok (choice, u) else .error (.here .expectedValue (d :: u))
  else if c = '"' then do
    let (name, s) ← readString t
    chooseName first second name s
  else .error (.next .expectedValue (c :: t))

def readValue (depth : Nat) : Reader Value := fun s => atValue s fun c t =>
  if c = 'n' then do .ok (.null, ← readWord ['u', 'l', 'l'] t)
  else if c = 't' then do .ok (.bool true, ← readWord ['r', 'u', 'e'] t)
  else if c = 'f' then do .ok (.bool false, ← readWord ['a', 'l', 's', 'e'] t)
  else if c = '-' then (readNumber true t).map fun (n, rest) => (.number n, rest)
  else if isDigit c then (readNumber false (c :: t)).map fun (n, rest) => (.number n, rest)
  else if c = '"' then (readString t).map fun (s, rest) => (.string s, rest)
  else if c = '[' then
    match depth with
    | 0 => .error (.next .tooDeep (c :: t))
    | depth + 1 => (readListBody (readValue depth) t).map fun (vs, rest) => (.list vs, rest)
  else if c = '{' then
    match depth with
    | 0 => .error (.next .tooDeep (c :: t))
    | depth + 1 => do
      let add : String → List (String × Value) → Reader (List (String × Value)) :=
        fun key members s => do
          let (v, s) ← readMember (readValue depth) s
          .ok ((key, v) :: members, s)
      let (members, s) ← readMembers add (t.length + 1) true [] t
      .ok (.object members.reverse, ← closeObject s)
  else .error (.next .expectedValue (c :: t))

def readWhole (read : Reader α) (text : List Char) : Except Fault α := do
  let (a, rest) ← read text
  match skipSpace rest with
  | [] => .ok a
  | c :: t => .error (.next .trailingCharacters (c :: t))

def depthLimit : Nat := 127

end EventRelay.Json
