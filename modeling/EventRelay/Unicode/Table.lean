import EventRelay.Text.Number

namespace EventRelay.Unicode

structure Row (α : Type) where
  first : Nat
  last : Nat
  value : α
  deriving DecidableEq, Repr

abbrev Table (α : Type) := Array (Row α)

namespace Table

def search (t : Table α) (n low high : Nat) : Option (Row α) :=
  if low < high then
    let middle := (low + high) / 2
    match t[middle]? with
    | none => none
    | some row =>
      if n < row.first then t.search n low middle
      else if row.last < n then t.search n (middle + 1) high
      else some row
  else none
termination_by high - low

def row? (t : Table α) (c : Char) : Option (Row α) := t.search c.toNat 0 t.size

def get? (t : Table α) (c : Char) : Option α := (t.row? c).map (·.value)

def contains (t : Table α) (c : Char) : Bool := (t.row? c).isSome

end Table

def codePoint (s : String) : Nat := Text.number 16 (s.toList.filterMap Text.hexValue?)

def Row.ofText (value : String → α) (s : String) : Row α :=
  let (points, written) := match s.splitOn "=" with
    | [points, written] => (points, written)
    | _ => (s, "")
  match points.splitOn "-" with
  | [first, last] => ⟨codePoint first, codePoint last, value written⟩
  | _ => ⟨codePoint points, codePoint points, value written⟩

def Table.ofText (value : String → α) (s : String) : Table α :=
  let rows := ((s.splitOn "\n").flatMap (·.splitOn " ")).filter (!·.isEmpty)
  (rows.map (Row.ofText value)).toArray

def Table.ofPoints (s : String) : Table Unit := .ofText (fun _ => ()) s

end EventRelay.Unicode
