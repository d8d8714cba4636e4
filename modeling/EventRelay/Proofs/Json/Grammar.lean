import EventRelay.Json.Lexeme
import EventRelay.Proofs.Json.Scalars

namespace EventRelay.Json

def Blanks (ws : List Char) : Prop := ∀ c ∈ ws, isSpace c = true

theorem blanks_nil : Blanks [] := fun _ h => nomatch h

inductive Symbol
  | plain (c : Char)
  | code (n : Nat)

inductive Body : List Char → List Symbol → Prop
  | nil : Body [] []
  | plain {c : Char} {s : List Char} {symbols : List Symbol} (quote : c ≠ '"') (slash : c ≠ '\\')
    (printed : ¬ c.toNat < 0x20) (rest : Body s symbols) : Body (c :: s) (.plain c :: symbols)
  | escape {c d : Char} {s : List Char} {symbols : List Symbol} (h : simpleEscape? c = some d)
    (rest : Body s symbols) : Body ('\\' :: c :: s) (.plain d :: symbols)
  | code {a b c d : Char} {digits : List Nat} {s : List Char} {symbols : List Symbol}
    (h : [a, b, c, d].mapM Text.hexValue? = some digits) (rest : Body s symbols) :
    Body ('\\' :: 'u' :: a :: b :: c :: d :: s) (.code (Text.number 16 digits) :: symbols)

def IsHigh (n : Nat) : Prop := 0xD800 ≤ n ∧ n ≤ 0xDBFF

def IsLow (n : Nat) : Prop := 0xDC00 ≤ n ∧ n ≤ 0xDFFF

instance (n : Nat) : Decidable (IsHigh n) := inferInstanceAs (Decidable (_ ∧ _))

instance (n : Nat) : Decidable (IsLow n) := inferInstanceAs (Decidable (_ ∧ _))

/--
The text of symbols, behind the first half of a surrogate pair or not. Halves that do not come in
pairs are no text.
-/
def textFrom : (half : Option Nat) → List Symbol → Option (List Char)
  | none, [] => some []
  | none, .plain c :: symbols => (textFrom none symbols).map (c :: ·)
  | none, .code n :: symbols =>
    if IsLow n then none
    else if IsHigh n then textFrom (some n) symbols
    else (textFrom none symbols).map (Char.ofNat n :: ·)
  | some high, .code low :: symbols =>
    if IsLow low then
      (textFrom none symbols).map
        (Char.ofNat ((high - 0xD800) * 0x400 + (low - 0xDC00) + 0x10000) :: ·)
    else none
  | some _, _ => none

def content? (symbols : List Symbol) : Option String := (textFrom none symbols).map String.ofList

def inQuotes (body : List Char) : List Char := '"' :: (body ++ ['"'])

def Digits (ds : List Char) : Prop := ds ≠ [] ∧ ∀ d ∈ ds, isDigit d = true

inductive IsWhole : List Char → Prop
  | zero : IsWhole ['0']
  | digits {d : Char} {ds : List Char} (zero : d ≠ '0') (h : Digits (d :: ds)) : IsWhole (d :: ds)

inductive IsExponent : List Char → Prop
  | intro {e : Char} {sign ds : List Char} (he : e = 'e' ∨ e = 'E')
    (hs : sign ∈ [[], ['+'], ['-']]) (h : Digits ds) : IsExponent (e :: (sign ++ ds))

inductive IsTail : List Char → Prop
  | nil : IsTail []
  | exponent {e : List Char} (h : IsExponent e) : IsTail e
  | fraction {ds e : List Char} (h : Digits ds) (he : e = [] ∨ IsExponent e) :
    IsTail ('.' :: (ds ++ e))

inductive IsNumber : List Char → Prop
  | plus {ds tail : List Char} (h : IsWhole ds) (ht : IsTail tail) : IsNumber (ds ++ tail)
  | minus {ds tail : List Char} (h : IsWhole ds) (ht : IsTail tail) : IsNumber ('-' :: (ds ++ tail))

/-- A value. A number is what is written, and a string is a text or none. -/
inductive Tree
  | null
  | bool (b : Bool)
  | number (written : List Char)
  | string (content : Option String)
  | list (items : List Tree)
  | object (members : List (Option String × Tree))

/-- The parts of a text. An element is a value with the blanks around it. -/
inductive Node
  | value (t : Tree)
  | element (t : Tree)
  | items (ts : List Tree)
  | member (m : Option String × Tree)
  | members (ms : List (Option String × Tree))

inductive Spells : Node → List Char → Prop
  | null : Spells (.value .null) ['n', 'u', 'l', 'l']
  | true : Spells (.value (.bool true)) ['t', 'r', 'u', 'e']
  | false : Spells (.value (.bool false)) ['f', 'a', 'l', 's', 'e']
  | number {s : List Char} (h : IsNumber s) : Spells (.value (.number s)) s
  | string {s : List Char} {symbols : List Symbol} (h : Body s symbols) :
    Spells (.value (.string (content? symbols))) (inQuotes s)
  | list {ts : List Tree} {s : List Char} (h : Spells (.items ts) s) :
    Spells (.value (.list ts)) ('[' :: (s ++ [']']))
  | object {ms : List (Option String × Tree)} {s : List Char} (h : Spells (.members ms) s) :
    Spells (.value (.object ms)) ('{' :: (s ++ ['}']))
  | element {t : Tree} {s before behind : List Char} (hb : Blanks before)
    (h : Spells (.value t) s) (hr : Blanks behind) :
    Spells (.element t) (before ++ (s ++ behind))
  | noItem {ws : List Char} (h : Blanks ws) : Spells (.items []) ws
  | lastItem {t : Tree} {s : List Char} (h : Spells (.element t) s) : Spells (.items [t]) s
  | items {t u : Tree} {ts : List Tree} {s rest : List Char} (h : Spells (.element t) s)
    (hr : Spells (.items (u :: ts)) rest) : Spells (.items (t :: u :: ts)) (s ++ ',' :: rest)
  | member {t : Tree} {name s before behind : List Char} {symbols : List Symbol}
    (hb : Blanks before) (hn : Body name symbols) (hr : Blanks behind)
    (h : Spells (.element t) s) :
    Spells (.member (content? symbols, t)) (before ++ (inQuotes name ++ (behind ++ ':' :: s)))
  | noMember {ws : List Char} (h : Blanks ws) : Spells (.members []) ws
  | lastMember {m : Option String × Tree} {s : List Char} (h : Spells (.member m) s) :
    Spells (.members [m]) s
  | members {m n : Option String × Tree} {ms : List (Option String × Tree)} {s rest : List Char}
    (h : Spells (.member m) s) (hr : Spells (.members (n :: ms)) rest) :
    Spells (.members (m :: n :: ms)) (s ++ ',' :: rest)

def isPlain (c : Char) : Bool := c ≠ '"' ∧ c ≠ '\\' ∧ ¬ c.toNat < 0x20

theorem body_plain {cs : List Char} (h : cs.all isPlain = true) : Body cs (cs.map .plain) := by
  induction cs with
  | nil => exact .nil
  | cons c cs ih =>
    rw [List.all_cons, Bool.and_eq_true] at h
    obtain ⟨quote, slash, printed⟩ := of_decide_eq_true h.1
    exact .plain quote slash printed (ih h.2)

theorem textFrom_plain (cs : List Char) : textFrom none (cs.map .plain) = some cs := by
  induction cs with
  | nil => rfl
  | cons c cs ih =>
    rw [List.map_cons, textFrom, ih]
    rfl

theorem content?_plain (s : String) : content? (s.toList.map .plain) = some s := by
  rw [content?, textFrom_plain, Option.map_some, String.ofList_toList]

theorem spells_text {s : String} (h : s.toList.all isPlain = true) :
    Spells (.value (.string (some s))) (inQuotes s.toList) := by
  have spelled := Spells.string (body_plain h)
  rwa [content?_plain] at spelled

theorem spells_member {name : String} (h : name.toList.all isPlain = true) {t : Tree}
    {s : List Char} (ht : Spells (.value t) s) :
    Spells (.member (some name, t)) (inQuotes name.toList ++ ':' :: s) := by
  have spelled := Spells.member blanks_nil (body_plain h) blanks_nil
    (.element blanks_nil ht blanks_nil)
  rwa [content?_plain, List.nil_append, List.nil_append, List.nil_append,
    List.append_nil] at spelled

def textMember (name value : String) : List Char :=
  inQuotes name.toList ++ ':' :: inQuotes value.toList

theorem spells_textMember {name value : String} (named : name.toList.all isPlain = true)
    (valued : value.toList.all isPlain = true) :
    Spells (.member (some name, .string (some value))) (textMember name value) :=
  spells_member named (spells_text valued)

def Starts (s : List Char) : Prop :=
  ∃ c t, s = c :: t ∧ isSpace c = false ∧ c ∉ [',', ']', '}']

def Opens (s : List Char) : Prop := ∃ ws t, s = ws ++ t ∧ Blanks ws ∧ Starts t

theorem Starts.append {s : List Char} (h : Starts s) (rest : List Char) : Starts (s ++ rest) := by
  obtain ⟨c, t, rfl, start⟩ := h
  exact ⟨c, t ++ rest, rfl, start⟩

theorem Opens.append {s : List Char} (h : Opens s) (rest : List Char) : Opens (s ++ rest) := by
  obtain ⟨ws, t, rfl, blank, start⟩ := h
  exact ⟨ws, t ++ rest, List.append_assoc .., blank, start.append rest⟩

theorem Starts.skipSpace {s : List Char} (h : Starts s) : Json.skipSpace s = s := by
  obtain ⟨c, t, rfl, space, -⟩ := h
  exact skipSpace_cons space t

theorem starts_digit {c : Char} (digit : isDigit c = true) (t : List Char) : Starts (c :: t) := by
  refine ⟨c, t, rfl, isSpace_of_isDigit digit, fun mark => ?_⟩
  have none : ∀ d ∈ [',', ']', '}'], isDigit d = false := by simp [isDigit]
  rw [none c mark] at digit
  cases digit

section Openings

variable {t : Tree} {ts : List Tree} {m : Option String × Tree} {ms : List (Option String × Tree)}
  {s : List Char}

theorem IsWhole.head (h : IsWhole s) : ∃ c t, s = c :: t ∧ isDigit c = true := by
  cases h with
  | zero => exact ⟨'0', [], rfl, rfl⟩
  | digits _ h => exact ⟨_, _, rfl, h.2 _ List.mem_cons_self⟩

theorem starts_number (h : IsNumber s) : Starts s := by
  cases h with
  | plus h =>
    obtain ⟨c, t, rfl, digit⟩ := h.head
    exact (starts_digit digit t).append _
  | minus => exact ⟨_, _, rfl, by decide, by decide⟩

theorem starts_value (h : Spells (.value t) s) : Starts s := by
  cases h with
  | number h => exact starts_number h
  | null | true | false | string | list | object => exact ⟨_, _, rfl, by decide, by decide⟩

theorem opens_element (h : Spells (.element t) s) : Opens s := by
  cases h with
  | element hb h => exact ⟨_, _, rfl, hb, (starts_value h).append _⟩

theorem opens_items (h : Spells (.items (t :: ts)) s) : Opens s := by
  cases h with
  | lastItem h => exact opens_element h
  | items h => exact (opens_element h).append _

theorem opens_member (h : Spells (.member m) s) : Opens s := by
  cases h with
  | member hb => exact ⟨_, _, rfl, hb, ⟨'"', _, rfl, by decide, by decide⟩⟩

theorem opens_members (h : Spells (.members (m :: ms)) s) : Opens s := by
  cases h with
  | lastMember h => exact opens_member h
  | members h => exact (opens_member h).append _

end Openings

end EventRelay.Json
