import EventRelay.Toml.Value

namespace EventRelay.Toml

structure Shape where
  singles : Nat
  doubles : Nat
  control : Bool
  backslash : Bool
  newline : Bool

def longestRun (quote : Char) (s : List Char) : Nat :=
  (s.foldl (fun (best, current) c =>
    let current := if c = quote then current + 1 else 0
    (max best current, current)) (0, 0)).1

def isControl (c : Char) : Bool := (c.toNat < 0x20 && c != '\t' && c != '\n') || c.toNat == 0x7F

def Shape.of (s : List Char) : Shape :=
  { singles := longestRun '\x27' s
    doubles := longestRun '"' s
    control := s.any isControl
    backslash := s.contains '\\'
    newline := s.contains '\n' }

inductive Style
  | basic
  | literal
  | longBasic
  | longLiteral
  deriving DecidableEq, Repr

def Style.choose (s : List Char) : Style :=
  let shape := Shape.of s
  let plain := !shape.control && !shape.backslash
  if plain && shape.doubles = 0 && !shape.newline then .basic
  else if !shape.control && shape.singles = 0 && !shape.newline then .literal
  else if plain && shape.doubles ≤ 2 then .longBasic
  else if !shape.control && shape.singles ≤ 2 then .longLiteral
  else if shape.newline then .longBasic
  else .basic

def Style.isLong : Style → Bool
  | .longBasic | .longLiteral => true
  | _ => false

def Style.escapes : Style → Bool
  | .basic | .longBasic => true
  | _ => false

def Style.quotes : Style → List Char
  | .basic => ['"']
  | .literal => ['\x27']
  | .longBasic => List.replicate 3 '"'
  | .longLiteral => List.replicate 3 '\x27'

def upperHex (n : Nat) : Char := if n < 10 then Char.ofNat (48 + n) else Char.ofNat (55 + n)

def escape? (long : Bool) (c : Char) : Option (List Char) :=
  if c = '\x08' then some ['\\', 'b']
  else if c = '\t' then some ['\\', 't']
  else if c = '\n' then if long then none else some ['\\', 'n']
  else if c = '\x0c' then some ['\\', 'f']
  else if c = '\r' then some ['\\', 'r']
  else if c = '\\' then some ['\\', '\\']
  else if isControl c then
    some ['\\', 'u', '0', '0', upperHex (c.toNat / 16), upperHex (c.toNat % 16)]
  else none

/-- The content of a string; of a run of quotes each one past the limit is escaped. -/
def escapeFrom (long : Bool) (limit run : Nat) : List Char → List Char
  | [] => []
  | c :: s =>
    if c = '"' then
      if run < limit then c :: escapeFrom long limit (run + 1) s
      else '\\' :: c :: escapeFrom long limit 0 s
    else match escape? long c with
      | some escaped => escaped ++ escapeFrom long limit 0 s
      | none => c :: escapeFrom long limit 0 s

def renderString (s : String) : List Char :=
  let cs := s.toList
  let style := Style.choose cs
  let body := if style.escapes then escapeFrom style.isLong (if style.isLong then 2 else 0) 0 cs
    else cs
  let start := if style.isLong ∧ cs.contains '\n' then ['\n'] else []
  style.quotes ++ start ++ body ++ style.quotes

inductive Scalar
  | string (s : String)
  | integer (n : Int)
  | boolean (b : Bool)
  | strings (items : List String)
  deriving DecidableEq, Repr

def Scalar.render : Scalar → List Char
  | .string s => renderString s
  | .integer n => (toString n).toList
  | .boolean b => (toString b).toList
  | .strings [] => ['[', ']']
  | .strings [s] => '[' :: renderString s ++ [']']
  | .strings items =>
    '[' :: '\n' :: items.flatMap (fun s => List.replicate 4 ' ' ++ renderString s ++ [',', '\n']) ++
      [']']

structure Section where
  name : String
  assignments : List (String × Scalar)
  deriving DecidableEq, Repr

def Section.render (t : Section) : List Char :=
  '[' :: t.name.toList ++ [']', '\n'] ++
    t.assignments.flatMap fun (key, v) => key.toList ++ [' ', '=', ' '] ++ v.render ++ ['\n']

def renderSections (sections : List Section) : String :=
  String.ofList (List.intercalate ['\n'] (sections.map Section.render))

end EventRelay.Toml
