namespace EventRelay

/-- A place in the tree. The depth comes first, so that it tells most places apart. -/
structure Location where
  depth : Nat
  names : List String
  depth_eq : depth = names.length
  deriving DecidableEq, Repr

namespace Location

def root : Location := ⟨0, [], rfl⟩

def child (l : Location) (name : String) : Location :=
  ⟨l.depth + 1, name :: l.names, by simp [l.depth_eq]⟩

def parent (l : Location) : Location := ⟨l.depth - 1, l.names.tail, by simp [l.depth_eq]⟩

def ofNames (names : List String) : Location := names.foldl child root

def isWithin (l m : Location) : Bool := m.names.isSuffixOf l.names

def text (l : Location) : String := "/" ++ "/".intercalate l.names.reverse

end Location

end EventRelay
