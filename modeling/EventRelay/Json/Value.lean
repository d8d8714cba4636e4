import EventRelay.Decimal.Shortest
import EventRelay.Json.Lexeme

namespace EventRelay.Json

inductive Value
  | null
  | bool (b : Bool)
  | number (n : Numeral)
  | string (s : String)
  | list (values : List Value)
  | object (members : List (String × Value))

def Value.int (n : Int) : Value :=
  .number (if n < 0 then .negative n.natAbs else .natural n.toNat)

def hexDigit (n : Nat) : Char := if n < 10 then Char.ofNat (48 + n) else Char.ofNat (87 + n)

def escapeChar (c : Char) : List Char :=
  if c = '"' then ['\\', '"']
  else if c = '\\' then ['\\', '\\']
  else if c = '\x08' then ['\\', 'b']
  else if c = '\t' then ['\\', 't']
  else if c = '\n' then ['\\', 'n']
  else if c = '\x0c' then ['\\', 'f']
  else if c = '\r' then ['\\', 'r']
  else if c.toNat < 0x20 then
    ['\\', 'u', '0', '0', hexDigit (c.toNat / 16), hexDigit (c.toNat % 16)]
  else [c]

def renderString (s : String) : List Char := '"' :: s.toList.flatMap escapeChar ++ ['"']

def Numeral.render : Numeral → List Char
  | .natural n => Nat.toDigits 10 n
  | .negative n => '-' :: Nat.toDigits 10 n
  | .real minus x => (x.toText minus).toList

def bracketed (opening closing : Char) (items : List (List Char)) : List Char :=
  opening :: List.intercalate [','] items ++ [closing]

mutual

def Value.render : Value → List Char
  | .null => ['n', 'u', 'l', 'l']
  | .bool true => ['t', 'r', 'u', 'e']
  | .bool false => ['f', 'a', 'l', 's', 'e']
  | .number n => n.render
  | .string s => renderString s
  | .list values => bracketed '[' ']' (renderAll values)
  | .object members => bracketed '{' '}' (renderMembers members)

def renderAll : List Value → List (List Char)
  | [] => []
  | v :: vs => v.render :: renderAll vs

def renderMembers : List (String × Value) → List (List Char)
  | [] => []
  | (key, v) :: vs => (renderString key ++ ':' :: v.render) :: renderMembers vs

end

def Value.text (v : Value) : String := String.ofList v.render

end EventRelay.Json
