import EventRelay.DomainName.Mapping
import EventRelay.DomainName.Punycode
import EventRelay.Unicode.Composition
import EventRelay.Unicode.Direction
import EventRelay.Unicode.Joining
import EventRelay.Unicode.Mark

namespace EventRelay.DomainName

structure Label where
  text : List Char
  ascii : List Char
  deriving DecidableEq, Repr

namespace Label

def isAscii (cs : List Char) : Bool := cs.all (·.toNat < 128)

def marker : List Char := "xn--".toList

def maxLength : Nat := 1000

def maxEncodedLength : Nat := 2000

/--
A sign that joins letters or keeps them apart stands behind a virama; one that keeps them apart also
between letters that would join. The characters `before` are reversed.
-/
def joinersFit (before : List Char) : List Char → Bool
  | [] => true
  | c :: cs =>
    let followsVirama := before.head?.any Unicode.isVirama
    let fits :=
      if c = Unicode.joiner then followsVirama
      else if c = Unicode.nonJoiner then followsVirama || Unicode.wouldJoin before cs
      else true
    fits && joinersFit (c :: before) cs

def isWellFormed (text : List Char) : Bool :=
  !text.head?.any Unicode.isMark && joinersFit [] text

def hasRightToLeft (label : Label) : Bool :=
  label.text.any fun c => Unicode.direction c == .rightToLeft || Unicode.direction c == .arabicNumber

/--
A label is written in the direction of its first character, a letter, and ends with a letter or a
number, marks aside. From right to left it does not have numbers of both kinds.
-/
def keepsDirection (label : Label) : Bool :=
  let directions := label.text.map Unicode.direction
  let last := directions.reverse.find? (· != .mark)
  match directions.head? with
  | none => true
  | some .leftToRight =>
    directions.all ([.leftToRight, .europeanNumber, .neutral, .mark].contains ·) &&
      (last == some .leftToRight || last == some .europeanNumber)
  | some .rightToLeft =>
    !directions.contains .leftToRight && !directions.contains .separator &&
      last != some .neutral &&
      !(directions.contains .europeanNumber && directions.contains .arabicNumber)
  | some _ => false

def ofAscii? (ascii : List Char) : Option Label := do
  let encoded := ascii.drop marker.length
  if ¬ isAscii encoded ∨ maxEncodedLength < encoded.length then none
  let text ← Punycode.decode? encoded
  if isAscii text ∨ marker.isPrefixOf text then none
  if text.all isSettled ∧ Unicode.compose text = text ∧ isWellFormed text then some { text, ascii }
  else none

def ofText? (text : List Char) : Option Label :=
  if marker.isPrefixOf text then ofAscii? text
  else if isAscii text then some { text, ascii := text }
  else if text.length ≤ maxLength ∧ isWellFormed text then
    some { text, ascii := marker ++ Punycode.encode text }
  else none

end Label

end EventRelay.DomainName
