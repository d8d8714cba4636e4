namespace EventRelay.Toml

/-- Of floating point numbers and dates only the kind is kept. -/
inductive Value
  | string (s : String)
  | integer (n : Int)
  | float
  | boolean (b : Bool)
  | date
  | array (values : List Value)
  | table (entries : List (String × Value))
  deriving Inhabited

abbrev Table := List (String × Value)

/--
A key's content while a document is read. A table is implicit until a header names it, and dotted
if the dots of an assignment made it.
-/
inductive Entry
  | value (v : Value)
  | table (implicit dotted : Bool) (entries : List (String × Entry))
  | tables (items : List (List (String × Entry)))

abbrev Entries := List (String × Entry)

namespace Entries

def get? (es : Entries) (key : String) : Option Entry := List.lookup key es

def set (es : Entries) (key : String) (e : Entry) : Entries :=
  if (es.get? key).isSome then es.map fun p => if p.1 == key then (key, e) else p
  else es ++ [(key, e)]

/--
Adds a key below the tables that the dots before it name. Such a table must not have a header of
its own, and the last of them must have been made by dots.
-/
def insertBelow (dotted : Bool) (es : Entries) (key : String) (v : Value) :
    (path : List String) → Option Entries
  | [] => if dotted ∧ (es.get? key).isNone then some (es ++ [(key, .value v)]) else none
  | name :: path =>
    match es.get? name with
    | none => do some (es ++ [(name, .table true true (← insertBelow true [] key v path))])
    | some (.table implicit d inner) =>
      if implicit then do some (es.set name (.table true d (← insertBelow d inner key v path)))
      else none
    | some (.tables items) =>
      match items.getLast? with
      | none => none
      | some last => do
        some (es.set name (.tables (items.dropLast ++ [← insertBelow false last key v path])))
    | some (.value _) => none

def assign (es : Entries) (path : List String) (v : Value) : Option Entries :=
  match path.reverse with
  | [] => none
  | [key] => if (es.get? key).isNone then some (es ++ [(key, .value v)]) else none
  | key :: above => es.insertBelow false key v above.reverse

def within (es : Entries) (f : Entries → Option Entries) : (path : List String) → Option Entries
  | [] => f es
  | name :: path =>
    match es.get? name with
    | none => do some (es ++ [(name, .table true false (← within [] f path))])
    | some (.table implicit d inner) => do
      some (es.set name (.table implicit d (← within inner f path)))
    | some (.tables items) =>
      match items.getLast? with
      | none => none
      | some last => do some (es.set name (.tables (items.dropLast ++ [← within last f path])))
    | some (.value _) => none

def openTable (es : Entries) (key : String) : Option Entries :=
  match es.get? key with
  | none => some (es ++ [(key, .table false false [])])
  | some (.table true false inner) => some (es.set key (.table false false inner))
  | some _ => none

def openItem (es : Entries) (key : String) : Option Entries :=
  match es.get? key with
  | none => some (es ++ [(key, .tables [[]])])
  | some (.tables items) => some (es.set key (.tables (items ++ [[]])))
  | some _ => none

end Entries

mutual

def Entry.toValue : Entry → Value
  | .value v => v
  | .table _ _ es => .table (entryValues es)
  | .tables items => .array (itemValues items)

def entryValues : List (String × Entry) → Table
  | [] => []
  | (key, e) :: es => (key, e.toValue) :: entryValues es

def itemValues : List (List (String × Entry)) → List Value
  | [] => []
  | es :: items => .table (entryValues es) :: itemValues items

end

inductive Statement
  | header (path : List String)
  | item (path : List String)
  | assignment (path : List String) (v : Value)

structure Builder where
  root : Entries := []
  current : List String := []

def Builder.step (b : Builder) : Statement → Option Builder
  | .header path => do
    let root ← b.root.within (·.openTable (path.getLastD "")) path.dropLast
    some { root, current := path }
  | .item path => do
    let root ← b.root.within (·.openItem (path.getLastD "")) path.dropLast
    some { root, current := path }
  | .assignment path v => do
    let root ← b.root.within (·.assign path v) b.current
    some { b with root }

def tableOf (statements : List Statement) : Option Table := do
  let b ← statements.foldlM Builder.step {}
  some (entryValues b.root)

def inlineTable (assignments : List (List String × Value)) : Option Value := do
  let es ← assignments.foldlM (fun es (path, v) => Entries.assign es path v) ([] : Entries)
  some (.table (entryValues es))

end EventRelay.Toml
