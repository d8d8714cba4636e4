import EventRelay.Url.Host

/-!
Web addresses. Reading is lenient about slashes, case and characters that have to be encoded, so
that an address has one written form.
-/

namespace EventRelay

inductive Url.Scheme
  | http
  | https
  deriving DecidableEq, Repr

structure Url where
  scheme : Url.Scheme
  user : String
  password : String
  host : Url.Host
  /-- Only a port that is not the scheme's own. -/
  port : Option Nat
  segments : List String
  query : Option String
  fragment : Option String
  deriving DecidableEq, Repr

namespace Url

def Scheme.name : Scheme → String
  | .http => "http"
  | .https => "https"

def Scheme.port : Scheme → Nat
  | .http => 80
  | .https => 443

def userText (u : Url) : String :=
  let password := if u.password.isEmpty then "" else s!":{u.password}"
  if u.user.isEmpty ∧ u.password.isEmpty then "" else s!"{u.user}{password}@"

def portText (u : Url) : String :=
  match u.port with
  | some port => s!":{port}"
  | none => ""

def pathText (u : Url) : String := "/" ++ "/".intercalate u.segments

def text (u : Url) : String :=
  let query := match u.query with
    | some query => s!"?{query}"
    | none => ""
  let fragment := match u.fragment with
    | some fragment => s!"#{fragment}"
    | none => ""
  s!"{u.scheme.name}://{userText u}{u.host.text}{portText u}{pathText u}{query}{fragment}"

def tidy (s : String) : List Char :=
  let outer (c : Char) : Bool := c.toNat ≤ 0x20
  let cs := (s.toList.dropWhile outer).reverse.dropWhile outer
  cs.reverse.filter fun c => c != '\t' && c != '\n' && c != '\r'

def splitScheme (cs : List Char) : Option (String × List Char) :=
  let isPart (c : Char) : Bool := c.isAlphanum || c == '+' || c == '-' || c == '.'
  let name := cs.takeWhile isPart
  match name, cs.dropWhile isPart with
  | first :: _, ':' :: rest =>
    if first.isAlpha then some (String.ofList (name.map Char.toLower), rest) else none
  | _, _ => none

def scheme? (name : String) : Option Scheme :=
  if name = "http" then some .http else if name = "https" then some .https else none

def isSlash (c : Char) : Bool := c == '/' || c == '\\'

def endsAuthority (c : Char) : Bool := isSlash c || c == '?' || c == '#'

def splitUser (authority : List Char) : Option (List Char) × List Char :=
  let reversed := authority.reverse
  match reversed.dropWhile (· != '@') with
  | [] => (none, authority)
  | _ :: user => (some user.reverse, (reversed.takeWhile (· != '@')).reverse)

def splitPort (inBrackets : Bool) : List Char → List Char × Option (List Char)
  | [] => ([], none)
  | c :: cs =>
    if c = ':' ∧ ¬ inBrackets then ([], some cs)
    else
      let inBrackets := if c = '[' then true else if c = ']' then false else inBrackets
      let (host, port) := splitPort inBrackets cs
      (c :: host, port)

def port? (scheme : Scheme) (cs : List Char) : Option (Option Nat) :=
  if cs.isEmpty then some none
  else if ¬ cs.all Char.isDigit then none
  else
    let n := Text.number 10 (cs.map fun c => c.toNat - 48)
    if Text.max16 < n then none else some (if n = scheme.port then none else some n)

def dots : List String := [".", "%2e"]

def isDot (segment : String) : Bool := dots.contains (segment.map Char.toLower)

def isDoubleDot (segment : String) : Bool :=
  (dots.flatMap fun a => dots.map fun b => a ++ b).contains (segment.map Char.toLower)

def isDrive (segment : String) : Bool :=
  match segment.toList with
  | [letter, mark] => letter.isAlpha && (mark == ':' || mark == '|')
  | _ => false

def goUp (above : List String) : List String :=
  if above.head?.any isDrive then above else above.drop 1

/-- Resolves dots: one stays where it is, two go up. Such a last segment leaves a final slash. -/
def resolve (above : List String) : List String → List String
  | [] => above.reverse
  | segment :: segments =>
    let last := if segments.isEmpty then [""] else []
    if isDoubleDot segment then resolve (last ++ goUp above) segments
    else if isDot segment then resolve (last ++ above) segments
    else resolve (segment :: above) segments

def readPath (cs : List Char) : List String :=
  let cs := match cs with
    | c :: rest => if isSlash c then rest else c :: rest
    | [] => []
  let segments := (Text.splitAt isSlash cs).map fun segment =>
    String.ofList (percentEncode encodedInPath segment)
  resolve [] segments

def splitMark (mark : Char) (cs : List Char) : List Char × Option (List Char) :=
  match cs.dropWhile (· != mark) with
  | [] => (cs, none)
  | _ :: rest => (cs.takeWhile (· != mark), some rest)

def parse? (s : String) : Option Url := do
  let (name, rest) ← splitScheme (tidy s)
  let scheme ← scheme? name
  let rest := rest.dropWhile isSlash
  let (user, hostPort) := splitUser (rest.takeWhile (!endsAuthority ·))
  let (host, port) := splitPort false hostPort
  let (user, password) := splitMark ':' (user.getD [])
  let encode (part : List Char) : String := String.ofList (percentEncode encodedInUser part)
  let (rest, fragment) := splitMark '#' (rest.dropWhile (!endsAuthority ·))
  let (path, query) := splitMark '?' rest
  return {
    scheme
    user := encode user
    password := encode (password.getD [])
    host := ← Host.parse? host
    port := ← port? scheme (port.getD [])
    segments := readPath path
    query := query.map fun q => String.ofList (percentEncode encodedInQuery q)
    fragment := fragment.map fun f => String.ofList (percentEncode encodedInFragment f) }

end Url

end EventRelay
