namespace EventRelay

structure Path where
  text : String
  deriving DecidableEq, Repr, Inhabited

namespace Path

def isAbsolute (p : Path) : Bool := p.text.toList.head? == some '/'

def isRelative (p : Path) : Bool := !p.isAbsolute

def pieces (p : Path) : List String := p.text.splitOn "/"

def names (p : Path) : List String := p.pieces.filter (!·.isEmpty)

/-- The root, if the path is absolute, and the names; a dot counts only as the first of them. -/
def components (p : Path) : List String :=
  match p.pieces with
  | [] => []
  | first :: rest =>
    let start := if p.isAbsolute then ["/"] else if first.isEmpty then [] else [first]
    start ++ rest.filter fun piece => !piece.isEmpty && piece != "."

def canonical (p : Path) : Path := ⟨"/".intercalate p.components⟩

def join (p q : Path) : Path :=
  if q.isAbsolute then q
  else if p.text.isEmpty ∨ p.text.endsWith "/" then ⟨p.text ++ q.text⟩
  else ⟨p.text ++ "/" ++ q.text⟩

def trimPieces : List String → List String
  | [] => []
  | first :: rest =>
    first :: (rest.reverse.dropWhile fun piece => piece.isEmpty || piece == ".").reverse

def parent? (p : Path) : Option Path :=
  match trimPieces p.pieces with
  | [] => none
  | [only] => if p.isAbsolute ∨ only.isEmpty then none else some ⟨""⟩
  | pieces =>
    match trimPieces pieces.dropLast with
    | [""] => if p.isAbsolute then some ⟨"/"⟩ else some ⟨""⟩
    | pieces => some ⟨"/".intercalate pieces⟩

end Path

end EventRelay
