import EventRelay.Toml.Lexeme

namespace EventRelay.Toml

def depthLimit : Nat := 79

def readItems (read : Reader Value) (done : List Value) : (fuel : Nat) → Reader (List Value)
  | 0, _ => none
  | fuel + 1, s =>
    match skipLines s.length s with
    | ']' :: s => some (done.reverse, s)
    | s => do
      let (v, s) ← read s
      match skipLines s.length s with
      | ',' :: s => readItems read (v :: done) fuel s
      | ']' :: s => some ((v :: done).reverse, s)
      | _ => none

def readAssignment (read : Reader Value) (s : List Char) :
    Option ((List String × Value) × List Char) := do
  let (path, s) ← readKey s
  let s ← expect '=' s
  let (v, s) ← read (skipSpace s)
  some ((path, v), s)

def readInline (read : Reader Value) (done : List (List String × Value)) :
    (fuel : Nat) → Reader (List (List String × Value))
  | 0, _ => none
  | fuel + 1, s => do
    let (a, s) ← readAssignment read s
    match skipSpace s with
    | ',' :: s => readInline read (a :: done) fuel s
    | '}' :: s => some ((a :: done).reverse, s)
    | _ => none

def readValue (depth : Nat) (s : List Char) : Option (Value × List Char) :=
  match s with
  | [] => none
  | c :: t =>
    if c = '"' ∨ c = '\x27' then (readString s).map fun (v, s) => (.string v, s)
    else if c = '[' then
      match depth with
      | 0 => none
      | depth + 1 => (readItems (readValue depth) [] (t.length + 1) t).map
          fun (vs, s) => (.array vs, s)
    else if c = '{' then
      match depth with
      | 0 => none
      | depth + 1 =>
        match skipSpace t with
        | '}' :: s => some (.table [], s)
        | t => do
          let (assignments, s) ← readInline (readValue depth) [] (t.length + 1) t
          some (← inlineTable assignments, s)
    else if c = '+' ∨ c = '-' ∨ isDigit c then readNumber s
    else match s with
      | 't' :: 'r' :: 'u' :: 'e' :: s => some (.boolean true, s)
      | 'f' :: 'a' :: 'l' :: 's' :: 'e' :: s => some (.boolean false, s)
      | 'i' :: 'n' :: 'f' :: s => some (.float, s)
      | 'n' :: 'a' :: 'n' :: s => some (.float, s)
      | _ => none

def readStatement (s : List Char) : Option (Statement × List Char) :=
  match s with
  | '[' :: '[' :: s => do
    let (path, s) ← readKey s
    let s ← endLine (← expect ']' (← expect ']' s))
    some (.item path, s)
  | '[' :: s => do
    let (path, s) ← readKey s
    let s ← endLine (← expect ']' s)
    some (.header path, s)
  | s => do
    let ((path, v), s) ← readAssignment (readValue depthLimit) s
    some (.assignment path v, ← endLine s)

/-- The statements of a document; each takes at least one character, which bounds the fuel. -/
def readStatements (done : List Statement) : (fuel : Nat) → List Char → Option (List Statement)
  | 0, _ => none
  | fuel + 1, s =>
    match skipLines s.length s with
    | [] => some done.reverse
    | '#' :: s => if (s.dropWhile isText).isEmpty then some done.reverse else none
    | s => do
      let (statement, s) ← readStatement s
      readStatements (statement :: done) fuel s

def read (text : String) : Option Table := do
  let s := match text.toList with
    | '\uFEFF' :: s => s
    | s => s
  tableOf (← readStatements [] (s.length + 1) s)

end EventRelay.Toml
