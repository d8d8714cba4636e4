import EventRelay.DomainName.Label
import EventRelay.Text.Split

namespace EventRelay.DomainName

def labels? (name : List Char) : Option (List Label) := do
  let text := Unicode.compose (← map? name)
  let labels ← (Text.splitAt (· == '.') text).mapM Label.ofText?
  if labels.any (·.hasRightToLeft) ∧ ¬ labels.all (·.keepsDirection) then none else some labels

def toAscii? (isForbidden : Char → Bool) (name : List Char) : Option (List Char) := do
  let ascii := ".".toList.intercalate ((← labels? name).map (·.ascii))
  if ascii.any isForbidden then none else some ascii

end EventRelay.DomainName
