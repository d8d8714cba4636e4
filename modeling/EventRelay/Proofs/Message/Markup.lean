import EventRelay.Message.Markup
import EventRelay.Text.Number

namespace EventRelay.Markup

def character? : List Char → Option Char
  | ['a', 'm', 'p'] => some '&'
  | ['l', 't'] => some '<'
  | ['g', 't'] => some '>'
  | ['q', 'u', 'o', 't'] => some '"'
  | '#' :: 'x' :: digit :: digits =>
    ((digit :: digits).mapM Text.hexValue?).map fun ds => Char.ofNat (Text.number 16 ds)
  | _ => none

def entity? (s : List Char) : Option (Char × List Char) :=
  match s.dropWhile (· != ';') with
  | [] => none
  | _ :: rest => (character? (s.takeWhile (· != ';'))).map (·, rest)

theorem entity?_length {s rest : List Char} {c : Char} (h : entity? s = some (c, rest)) :
    rest.length < s.length := by
  unfold entity? at h
  split at h
  · cases h
  · next d t dropped =>
    obtain ⟨_, -, same⟩ := Option.map_eq_some_iff.mp h
    cases same
    have shorter := (List.dropWhile_sublist (· != ';') (l := s)).length_le
    rw [dropped] at shorter
    exact shorter

/-- What written text shows. An ampersand that begins no entity stands for itself. -/
def unescape (s : List Char) : List Char :=
  match s with
  | [] => []
  | c :: s =>
    if c = '&' then
      match h : entity? s with
      | none => c :: unescape s
      | some (d, rest) =>
        have : rest.length < s.length := entity?_length h
        d :: unescape rest
    else c :: unescape s
termination_by s.length

def shown (written : String) : String := String.ofList (unescape written.toList)

theorem unescape_entity {s rest : List Char} {c : Char} (h : entity? s = some (c, rest)) :
    unescape ('&' :: s) = c :: unescape rest := by
  rw [unescape, if_pos rfl]
  split
  · next none =>
    rw [h] at none
    cases none
  · next some =>
    rw [h] at some
    cases some
    rfl

theorem unescape_append {s : List Char} (h : '&' ∉ s) (t : List Char) :
    unescape (s ++ t) = s ++ unescape t := by
  induction s with
  | nil => rfl
  | cons c s ih =>
    rw [List.mem_cons, not_or] at h
    rw [List.cons_append, unescape, if_neg (Ne.symm h.1), ih h.2, List.cons_append]

def marks : List Char := ['<', '>', '"', '\x27', '\x60', '=']

/-- Text that is nothing but text: it has no mark, and an ampersand only begins an entity. -/
structure Inert (s : List Char) : Prop where
  unmarked : ∀ c ∈ s, c ∉ marks
  entity : ∀ t, '&' :: t <:+ s → (entity? t).isSome

theorem read_entities : ∀ e ∈ entities, ∀ rest,
    entity? (e.2.toList ++ ';' :: rest) = some (e.1, rest) := by
  simp only [entities, List.forall_mem_cons]
  refine ⟨?_, ?_, ?_, ?_, ?_, ?_, ?_, ?_⟩
  all_goals first | exact fun _ => rfl | exact fun _ h => by cases h

theorem unmarked_entities : ∀ e ∈ entities, ∀ c ∈ e.2.toList ++ [';'], c ≠ '&' ∧ c ∉ marks := by
  have all : entities.all
      (fun e => (e.2.toList ++ [';']).all fun c => c ≠ '&' ∧ c ∉ marks) = true := rfl
  intro e he c hc
  exact of_decide_eq_true (List.all_eq_true.mp (List.all_eq_true.mp all e he) c hc)

inductive Written (c : Char) : List Char → Prop
  | itself (plain : c ≠ '&') (unmarked : c ∉ marks) : Written c [c]
  | entity (e : String) (read : ∀ rest, entity? (e.toList ++ ';' :: rest) = some (c, rest))
    (plain : '&' ∉ e.toList ++ [';']) (unmarked : ∀ d ∈ e.toList ++ [';'], d ∉ marks) :
    Written c ('&' :: (e.toList ++ [';']))

theorem written_escapeChar (c : Char) : Written c (escapeChar c) := by
  unfold escapeChar
  split
  · next name found =>
    obtain ⟨before, after, split, -⟩ := List.lookup_eq_some_iff.mp found
    have known : (c, name) ∈ entities := by
      rw [split]
      exact List.mem_append_right before List.mem_cons_self
    have unmarked := unmarked_entities _ known
    exact .entity name (read_entities _ known) (fun h => (unmarked _ h).1 rfl)
      fun d hd => (unmarked d hd).2
  · next missing =>
    have other := List.lookup_eq_none_iff.mp missing
    simp only [entities, List.forall_mem_cons, bne_iff_ne] at other
    obtain ⟨amp, lt, gt, quot, apos, tick, eq, -⟩ := other
    refine .itself amp ?_
    simp only [marks, List.mem_cons, List.not_mem_nil, or_false, not_or]
    exact ⟨lt, gt, quot, apos, tick, eq⟩

theorem suffix_of_not_mem {c : Char} {a s t : List Char} (h : c :: t <:+ a ++ s) (other : c ∉ a) :
    c :: t <:+ s := by
  induction a with
  | nil => exact h
  | cons d a ih =>
    rw [List.mem_cons, not_or] at other
    rcases List.suffix_cons_iff.mp h with same | later
    · cases same
      exact absurd rfl other.1
    · exact ih later other.2

theorem Inert.written {c : Char} {w s : List Char} (written : Written c w) (h : Inert s) :
    Inert (w ++ s) := by
  cases written with
  | itself plain unmarked =>
    refine ⟨List.forall_mem_cons.mpr ⟨unmarked, h.unmarked⟩, fun t ht => ?_⟩
    exact h.entity t (suffix_of_not_mem ht (by simpa using Ne.symm plain))
  | entity e read plain unmarked =>
    constructor
    · rw [List.cons_append, List.forall_mem_cons, List.forall_mem_append]
      exact ⟨by decide, unmarked, h.unmarked⟩
    · intro t ht
      rw [List.cons_append] at ht
      rcases List.suffix_cons_iff.mp ht with same | later
      · cases same
        rw [List.append_assoc, List.singleton_append, read]
        rfl
      · exact h.entity t (suffix_of_not_mem later plain)

theorem unescape_written {c : Char} {w : List Char} (written : Written c w) (s : List Char) :
    unescape (w ++ s) = c :: unescape s := by
  cases written with
  | itself plain _ => exact unescape_append (by simpa using Ne.symm plain) s
  | entity e read =>
    rw [List.cons_append, List.append_assoc]
    exact unescape_entity (read s)

theorem inert_flatMap (cs : List Char) : Inert (cs.flatMap escapeChar) := by
  induction cs with
  | nil =>
    refine ⟨fun c hc => absurd hc List.not_mem_nil, fun t ht => ?_⟩
    exact absurd (List.suffix_nil.mp ht) (List.cons_ne_nil _ _)
  | cons c cs ih => exact ih.written (written_escapeChar c)

theorem inert_escape (s : String) : Inert (escape s).toList := by
  rw [escape, String.toList_ofList]
  exact inert_flatMap s.toList

theorem unescape_flatMap (cs s : List Char) :
    unescape (cs.flatMap escapeChar ++ s) = cs ++ unescape s := by
  induction cs with
  | nil => rfl
  | cons c cs ih =>
    rw [List.flatMap_cons, List.append_assoc, unescape_written (written_escapeChar c), ih]
    rfl

theorem unescape_escape (s : String) (t : List Char) :
    unescape ((escape s).toList ++ t) = s.toList ++ unescape t := by
  rw [escape, String.toList_ofList, unescape_flatMap]

@[simp] theorem unescape_escape_self (s : String) : unescape (escape s).toList = s.toList := by
  have whole := unescape_escape s []
  rwa [List.append_nil, unescape, List.append_nil] at whole

@[simp] theorem shown_escape (s : String) : shown (escape s) = s := by
  rw [shown, unescape_escape_self, String.ofList_toList]

inductive Token
  | tag (name : String)
  | text (written : String)
  deriving DecidableEq, Repr

/-- Reads on behind the characters in `current`, which belong to a tag or to a text. -/
def tokensFrom (inTag : Bool) (current : List Char) : List Char → List Token
  | [] => [.text (String.ofList current.reverse)]
  | c :: s =>
    if inTag then
      if c = '>' then .tag (String.ofList current.reverse) :: tokensFrom false [] s
      else tokensFrom true (c :: current) s
    else if c = '<' then .text (String.ofList current.reverse) :: tokensFrom true [] s
    else tokensFrom false (c :: current) s

def tokens (document : String) : List Token := tokensFrom false [] document.toList

def Token.tag? : Token → Option String
  | .tag name => some name
  | .text _ => none

def tags (document : String) : List String := (tokens document).filterMap Token.tag?

def textBehind? (name : String) : List Token → Option String
  | .tag t :: .text s :: rest => if t = name then some s else textBehind? name rest
  | _ :: rest => textBehind? name rest
  | [] => none

def Token.write : Token → String
  | .tag name => "<" ++ name ++ ">"
  | .text written => written

def write (ts : List Token) : String := String.join (ts.map Token.write)

/-- Texts and tags by turns, where no bracket stands in a text and no tag ends before its end. -/
def Alternate : List Token → Prop
  | [.text s] => '<' ∉ s.toList
  | .text s :: .tag name :: ts => '<' ∉ s.toList ∧ '>' ∉ name.toList ∧ Alternate ts
  | _ => False

theorem tokensFrom_text {s : List Char} (h : '<' ∉ s) (current t : List Char) :
    tokensFrom false current (s ++ t) = tokensFrom false (s.reverse ++ current) t := by
  induction s generalizing current with
  | nil => rfl
  | cons c s ih =>
    rw [List.mem_cons, not_or] at h
    rw [List.cons_append, tokensFrom, if_neg Bool.false_ne_true, if_neg (Ne.symm h.1), ih h.2,
      List.reverse_cons, List.append_assoc]
    rfl

theorem tokensFrom_tag {s : List Char} (h : '>' ∉ s) (current t : List Char) :
    tokensFrom true current (s ++ '>' :: t) =
      .tag (String.ofList (current.reverse ++ s)) :: tokensFrom false [] t := by
  induction s generalizing current with
  | nil => rw [List.nil_append, tokensFrom, if_pos rfl, if_pos rfl, List.append_nil]
  | cons c s ih =>
    rw [List.mem_cons, not_or] at h
    rw [List.cons_append, tokensFrom, if_pos rfl, if_neg (Ne.symm h.1), ih h.2,
      List.reverse_cons, List.append_assoc]
    rfl

@[simp] theorem write_nil : write [] = "" := rfl

@[simp] theorem write_cons (t : Token) (ts : List Token) : write (t :: ts) = t.write ++ write ts :=
  String.join_cons

@[simp] theorem write_append (ts us : List Token) : write (ts ++ us) = write ts ++ write us := by
  rw [write, List.map_append, String.join_append]
  rfl

theorem tokens_write {ts : List Token} (h : Alternate ts) : tokens (write ts) = ts := by
  unfold tokens
  induction ts using Alternate.induct with
  | case1 s =>
    have read := tokensFrom_text h [] []
    rw [List.append_nil, List.append_nil, tokensFrom, List.reverse_reverse,
      String.ofList_toList] at read
    rw [write_cons, write_nil, String.append_empty, Token.write, read]
  | case2 s name ts ih =>
    obtain ⟨text, tag, rest⟩ := h
    have bracketed : (write (.tag name :: ts)).toList =
        '<' :: (name.toList ++ '>' :: (write ts).toList) := by
      simp [Token.write]
    rw [write_cons, String.toList_append, bracketed, Token.write, tokensFrom_text text, tokensFrom,
      if_neg Bool.false_ne_true, if_pos rfl, tokensFrom_tag tag, ih rest]
    simp
  | case3 ts noText noTag =>
    rw [Alternate] at h
    exact h.elim
    all_goals assumption

theorem plain_escape (s : String) : '<' ∉ (escape s).toList :=
  fun h => (inert_escape s).unmarked _ h (by decide)

end EventRelay.Markup
