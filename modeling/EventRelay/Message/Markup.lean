namespace EventRelay.Markup

def entities : List (Char × String) :=
  [('&', "amp"), ('<', "lt"), ('>', "gt"), ('"', "quot"), ('\x27', "#x27"), ('\x60', "#x60"),
    ('=', "#x3D")]

def escapeChar (c : Char) : List Char :=
  match entities.lookup c with
  | some name => '&' :: name.toList ++ [';']
  | none => [c]

def escape (s : String) : String := String.ofList (s.toList.flatMap escapeChar)

inductive Piece
  | markup (source : String)
  | text (content : String)
  deriving DecidableEq, Repr

def Piece.render : Piece → String
  | .markup source => source
  | .text content => escape content

def render (pieces : List Piece) : String := String.join (pieces.map Piece.render)

end EventRelay.Markup
