import EventRelay.Text.Blank

namespace EventRelay.Text

def splitAt (separates : Char → Bool) : List Char → List (List Char)
  | [] => [[]]
  | c :: cs =>
    if separates c then [] :: splitAt separates cs
    else match splitAt separates cs with
      | [] => [[c]]
      | part :: parts => (c :: part) :: parts

def dropReturn (line : List Char) : List Char :=
  match line.reverse with
  | '\r' :: rest => rest.reverse
  | _ => line

/-- The lines that line feeds end, without a carriage return before them; a last line may lack its
line feed, and then keeps the return. -/
def linesFrom (current : List Char) : List Char → List (List Char)
  | [] => if current.isEmpty then [] else [current.reverse]
  | c :: cs =>
    if c = '\n' then dropReturn current.reverse :: linesFrom [] cs
    else linesFrom (c :: current) cs

def lines (s : String) : List String := (linesFrom [] s.toList).map String.ofList

end EventRelay.Text
