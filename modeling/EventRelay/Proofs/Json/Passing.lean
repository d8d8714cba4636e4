import EventRelay.Json.Skip
import EventRelay.Proofs.Json.Grammar

namespace EventRelay.Json

variable {rest s : List Char}

def Stops (rest : List Char) : Prop := ∀ c ∈ rest.head?, isSpace c = true ∨ c ∈ [',', ']', '}']

theorem stops_cons {c : Char} (h : c ∈ [',', ']', '}']) (s : List Char) : Stops (c :: s) := by
  rintro d ⟨⟩
  exact .inr h

theorem skipSpace_append {ws : List Char} (blank : Blanks ws) (s : List Char) :
    skipSpace (ws ++ s) = skipSpace s :=
  List.dropWhile_append_of_pos blank

theorem Blanks.stops {ws : List Char} (blank : Blanks ws) (h : Stops rest) :
    Stops (ws ++ rest) := by
  cases ws with
  | nil => exact h
  | cons c ws =>
    intro d hd
    cases hd
    exact .inl (blank c List.mem_cons_self)

theorem skipString_quote (rest : List Char) : skipString ('"' :: rest) = .ok rest := by
  rw [skipString.eq_def]
  rfl

theorem skipString_plain {c : Char} (quote : c ≠ '"') (slash : c ≠ '\\')
    (printed : ¬ c.toNat < 0x20) (s : List Char) : skipString (c :: s) = skipString s := by
  rw [skipString.eq_def]
  dsimp only
  rw [if_neg quote, if_neg slash, if_neg printed]

theorem skipString_escape {c d : Char} (h : simpleEscape? c = some d) (s : List Char) :
    skipString ('\\' :: c :: s) = skipString s := by
  rw [skipString]
  simp only [h, Option.isSome_some, if_true]
  rfl

theorem skipString_code {n : Nat} {t : List Char} (h : readHex s = .ok (n, t)) :
    skipString ('\\' :: 'u' :: s) = skipString t := by
  have unknown : ¬ (simpleEscape? 'u').isSome = true := by decide
  rw [skipString, if_neg (by decide), if_pos rfl, if_neg unknown, if_pos rfl]
  split
  · next he =>
    rw [h] at he
    cases he
  · next he =>
    rw [h] at he
    cases he
    rfl

theorem readHex_digits {a b c d : Char} {digits : List Nat}
    (h : [a, b, c, d].mapM Text.hexValue? = some digits) (s : List Char) :
    readHex (a :: b :: c :: d :: s) = .ok (Text.number 16 digits, s) := by
  rw [readHex, h]

theorem skipString_body {symbols : List Symbol} (h : Body s symbols) (rest : List Char) :
    skipString (s ++ '"' :: rest) = .ok rest := by
  induction h with
  | nil => exact skipString_quote rest
  | plain quote slash printed _ ih => exact (skipString_plain quote slash printed _).trans ih
  | escape known _ ih => exact (skipString_escape known _).trans ih
  | code known _ ih => exact (skipString_code (readHex_digits known _)).trans ih

theorem Stops.not_starts (h : Stops rest) : ¬ Starts rest := by
  rintro ⟨c, t, rfl, space, other⟩
  rcases h c rfl with blank | mark
  · rw [space] at blank
    cases blank
  · exact other mark

theorem Stops.ne (h : Stops rest) {c : Char} (space : isSpace c = false)
    (other : c ∉ [',', ']', '}']) (t : List Char) : rest ≠ c :: t :=
  fun same => h.not_starts ⟨c, t, same, space, other⟩

theorem Stops.breaks (h : Stops rest) : Breaks rest := by
  intro c hc
  obtain ⟨t, rfl⟩ := List.head?_eq_some_iff.mp hc
  exact Bool.eq_false_iff.mpr fun digit => h.not_starts (starts_digit digit t)

theorem IsExponent.breaks {e : List Char} (h : IsExponent e) (s : List Char) : Breaks (e ++ s) := by
  obtain ⟨rfl | rfl, -, -⟩ := h
  · simp [Breaks, isDigit]
  · simp [Breaks, isDigit]

theorem IsTail.breaks {tail : List Char} (h : IsTail tail) (stops : Stops rest) :
    Breaks (tail ++ rest) := by
  cases h with
  | nil => exact stops.breaks
  | exponent h => exact h.breaks rest
  | fraction => simp [Breaks, isDigit]

theorem splitSign_append {sign ds : List Char} (hs : sign ∈ [[], ['+'], ['-']]) (h : Digits ds)
    (s : List Char) : (splitSign (sign ++ (ds ++ s))).2 = ds ++ s := by
  obtain ⟨some, digits⟩ := h
  obtain ⟨d, ds, rfl⟩ := List.exists_cons_of_ne_nil some
  have digit := digits d List.mem_cons_self
  simp only [List.mem_cons, List.not_mem_nil, or_false] at hs
  obtain rfl | rfl | rfl := hs
  · rw [List.nil_append, List.cons_append]
    unfold splitSign
    split
    · next eq =>
      cases eq
      cases digit
    · next eq =>
      cases eq
      cases digit
    · rfl
  · rfl
  · rfl

theorem skipExponent_append {sign ds : List Char} (hs : sign ∈ [[], ['+'], ['-']]) (h : Digits ds)
    (breaks : Breaks rest) : skipExponent (sign ++ ds ++ rest) = .ok rest := by
  rw [List.append_assoc, skipExponent, splitSign_append hs h]
  obtain ⟨some, digits⟩ := h
  obtain ⟨d, ds, rfl⟩ := List.exists_cons_of_ne_nil some
  rw [List.forall_mem_cons] at digits
  simp only [List.cons_append, digits.1, if_true, dropDigits_append digits.2 breaks]

def skipTail : List Char → Except Fault (List Char)
  | '.' :: s => skipFraction s
  | 'e' :: s | 'E' :: s => skipExponent s
  | s => .ok s

theorem Breaks.head (breaks : Breaks s) : ¬ s.head?.any isDigit = true := by
  cases s with
  | nil => simp
  | cons c s => simp [breaks c rfl]

theorem skipNumber_whole {ds : List Char} (h : IsWhole ds) (breaks : Breaks s) :
    skipNumber (ds ++ s) = skipTail s := by
  cases h with
  | zero =>
    have zero : ¬ ¬ isDigit '0' = true := by decide
    have more : ¬ ('0' = '0' ∧ s.head?.any isDigit = true) := fun h => breaks.head h.2
    rw [List.cons_append, skipNumber, List.nil_append, if_neg zero]
    dsimp only
    rw [if_pos rfl, if_neg more]
    split <;> first | rfl | (rw [skipTail] <;> assumption)
  | digits zero h =>
    have digits := List.forall_mem_cons.mp h.2
    rw [List.cons_append, skipNumber]
    simp only [digits.1, zero, dropDigits_append digits.2 breaks, not_true, if_false, false_and]
    split <;> first | rfl | (rw [skipTail] <;> assumption)

theorem skipTail_exponent {e : List Char} (h : IsExponent e) (breaks : Breaks rest) :
    skipTail (e ++ rest) = .ok rest := by
  obtain ⟨rfl | rfl, hs, h⟩ := h
  · exact skipExponent_append hs h breaks
  · exact skipExponent_append hs h breaks

theorem skipTail_stops (h : Stops rest) : skipTail rest = .ok rest := by
  rw [skipTail]
  · exact h.ne (by decide) (by decide)
  · exact h.ne (by decide) (by decide)
  · exact h.ne (by decide) (by decide)

theorem skipFraction_append {ds : List Char} (h : Digits ds) (breaks : Breaks s)
    (point : ∀ t, s ≠ '.' :: t) : skipFraction (ds ++ s) = skipTail s := by
  have some : ds.isEmpty = false := List.isEmpty_eq_false_iff.mpr h.1
  unfold skipFraction
  simp only [takeDigits_append h.2 breaks, dropDigits_append h.2 breaks, some, Bool.false_eq_true,
    if_false]
  split
  · rfl
  · rfl
  · rw [skipTail]
    · exact point
    · assumption
    · assumption

theorem skipTail_append {tail : List Char} (h : IsTail tail) (stops : Stops rest) :
    skipTail (tail ++ rest) = .ok rest := by
  cases h with
  | nil => exact skipTail_stops stops
  | exponent h => exact skipTail_exponent h stops.breaks
  | @fraction ds e h he =>
    rw [List.cons_append, List.append_assoc, skipTail]
    obtain rfl | he := he
    · have point : ∀ t, rest ≠ '.' :: t := stops.ne (by decide) (by decide)
      rw [List.nil_append, skipFraction_append h stops.breaks point, skipTail_stops stops]
    · have point : ∀ t, e ++ rest ≠ '.' :: t := by
        obtain ⟨rfl | rfl, -, -⟩ := he
        · rintro t ⟨⟩
        · rintro t ⟨⟩
      rw [skipFraction_append h (he.breaks rest) point, skipTail_exponent he stops.breaks]

def onward (step : Except Fault (Phase × List Bracket × List Char)) : Except Fault (List Char) :=
  step >>= fun (phase, stack, s) => skipAll phase stack s

variable {stack : List Bracket}

theorem skipAll_eq {phase : Phase} (h : ¬ (phase = .closedValue ∧ stack = [])) (s : List Char) :
    skipAll phase stack s = onward (skipStep phase stack s) := by
  rw [skipAll, if_neg h]
  split
  · next failed =>
    rw [failed]
    rfl
  · next taken =>
    simp only [taken]
    rfl

theorem skipToken_append {ws : List Char} (blank : Blanks ws) (s : List Char) :
    skipToken stack (ws ++ s) = skipToken stack s := by
  rw [skipToken, skipSpace_append blank, ← skipToken]

theorem skipToken_scalar {c : Char} (space : isSpace c = false) (list : c ≠ '[') (object : c ≠ '{')
    (h : skipScalar c s = .ok rest) :
    skipToken stack (c :: s) = .ok (.closedValue, stack, rest) := by
  rw [skipToken, skipSpace_cons space]
  simp only [list, object, if_false, h]
  rfl

theorem skipToken_digits {ds : List Char} (h : IsWhole ds)
    (number : skipNumber (ds ++ s) = .ok rest) :
    skipToken stack (ds ++ s) = .ok (.closedValue, stack, rest) := by
  obtain ⟨c, t, rfl, digit⟩ := h.head
  have other (d : Char) (h : isDigit d = false) : c ≠ d := ne_of_isDigit digit h
  rw [List.cons_append] at number
  refine skipToken_scalar (isSpace_of_isDigit digit) (other '[' rfl) (other '{' rfl) ?_
  rw [skipScalar, if_neg (other 'n' rfl), if_neg (other 't' rfl), if_neg (other 'f' rfl),
    if_neg (other '"' rfl), if_neg (other '-' rfl), if_pos digit]
  exact number

theorem skipToken_number (h : IsNumber s) (stops : Stops rest) :
    skipToken stack (s ++ rest) = .ok (.closedValue, stack, rest) := by
  cases h with
  | @plus ds tail h ht =>
    have number := skipNumber_whole h (ht.breaks stops)
    rw [skipTail_append ht stops] at number
    rw [List.append_assoc]
    exact skipToken_digits h number
  | @minus ds tail h ht =>
    have number := skipNumber_whole h (ht.breaks stops)
    rw [skipTail_append ht stops] at number
    rw [List.cons_append, List.append_assoc]
    exact skipToken_scalar (by decide) (by decide) (by decide) number

theorem skipInside_append {ws : List Char} (blank : Blanks ws) (afterValue : Bool)
    (b : Bracket) (s : List Char) :
    skipInside afterValue b stack (ws ++ s) = skipInside afterValue b stack s := by
  rw [skipInside, skipSpace_append blank, ← skipInside]

theorem skipInside_closing (afterValue : Bool) (b : Bracket) (s : List Char) :
    skipInside afterValue b stack (b.closing :: s) = .ok (.closedValue, stack, s) := by
  have mark : isSpace b.closing = false := by cases b <;> rfl
  rw [skipInside, skipSpace_cons mark]
  simp only [if_true]

def skipEntry (b : Bracket) (stack : List Bracket) (s : List Char) :
    Except Fault (Phase × List Bracket × List Char) :=
  match b with
  | .list => skipToken (.list :: stack) s
  | .object => do skipToken (.object :: stack) (← skipKey s)

theorem skipEntry_append {ws : List Char} (blank : Blanks ws) (b : Bracket) (s : List Char) :
    skipEntry b stack (ws ++ s) = skipEntry b stack s := by
  cases b with
  | list => exact skipToken_append blank s
  | object => rw [skipEntry, skipKey, skipSpace_append blank, ← skipKey, ← skipEntry]

theorem skipInside_opened (b : Bracket) (h : Opens s) :
    skipInside false b stack s = skipEntry b stack s := by
  obtain ⟨ws, _, rfl, blank, c, t, rfl, plain, other⟩ := h
  simp only [List.mem_cons, not_or] at other
  have notClosed : c ≠ b.closing := by
    cases b with
    | list => exact other.2.1
    | object => exact other.2.2.1
  have entry : ¬ (false = true ∧ c ≠ ',') := by simp
  rw [skipInside_append blank, skipEntry_append blank, skipInside, skipSpace_cons plain]
  dsimp only
  rw [if_neg notClosed, if_neg entry]
  rfl

theorem skipInside_comma (b : Bracket) (s : List Char) :
    skipInside true b stack (',' :: s) = skipEntry b stack s := by
  have notClosed : ',' ≠ b.closing := by cases b <;> decide
  have entry : ¬ (true = true ∧ ',' ≠ ',') := by simp
  rw [skipInside, skipSpace_cons (by decide)]
  dsimp only
  rw [if_neg notClosed, if_neg entry]
  rfl

def PassesEntry (b : Bracket) (s : List Char) : Prop :=
  ∀ stack rest, Stops rest →
    onward (skipEntry b stack (s ++ rest)) = skipAll .closedValue (b :: stack) rest

def PassesEntries (b : Bracket) (s : List Char) : Prop :=
  ∀ stack rest, onward (skipEntry b stack (s ++ b.closing :: rest)) =
    skipAll .closedValue stack rest

theorem skipAll_closedValue (b : Bracket) (s : List Char) :
    skipAll .closedValue (b :: stack) s = onward (skipInside true b stack s) :=
  skipAll_eq (by simp) s

theorem skipAll_opened (b : Bracket) (s : List Char) :
    skipAll .opened (b :: stack) s = onward (skipInside false b stack s) :=
  skipAll_eq (by simp) s

theorem PassesEntry.last {b : Bracket} (h : PassesEntry b s) : PassesEntries b s := by
  intro stack rest
  have mark : b.closing ∈ [',', ']', '}'] := by cases b <;> decide
  rw [h stack _ (stops_cons mark rest), skipAll_closedValue, skipInside_closing]
  rfl

theorem PassesEntry.cons {b : Bracket} {more : List Char} (h : PassesEntry b s)
    (hr : PassesEntries b more) : PassesEntries b (s ++ ',' :: more) := by
  intro stack rest
  rw [List.append_assoc, List.cons_append, h stack _ (stops_cons (by decide) _),
    skipAll_closedValue, skipInside_comma, hr]

theorem skipAll_bracket {b : Bracket} (h : Blanks s ∨ Opens s ∧ PassesEntries b s)
    (rest : List Char) :
    skipAll .opened (b :: stack) (s ++ b.closing :: rest) = skipAll .closedValue stack rest := by
  rw [skipAll_opened]
  obtain blank | ⟨opens, passes⟩ := h
  · rw [skipInside_append blank, skipInside_closing]
    rfl
  · rw [skipInside_opened b (opens.append _), passes]

/-- What passing over a part of a text comes to. -/
def Passes : Node → List Char → Prop
  | .value _, s => ∀ stack rest, Stops rest →
    onward (skipToken stack (s ++ rest)) = skipAll .closedValue stack rest
  | .element _, s => ∀ b stack rest, Stops rest →
    onward (skipToken (b :: stack) (s ++ rest)) = skipAll .closedValue (b :: stack) rest
  | .items ts, s => ts ≠ [] → PassesEntries .list s
  | .member _, s => PassesEntry .object s
  | .members ms, s => ms ≠ [] → PassesEntries .object s

theorem passes_scalar {t : Tree} {c : Char} (space : isSpace c = false) (list : c ≠ '[')
    (object : c ≠ '{') (h : ∀ rest, skipScalar c (s ++ rest) = .ok rest) :
    Passes (.value t) (c :: s) := by
  intro stack rest _
  rw [List.cons_append, skipToken_scalar space list object (h rest)]
  rfl

theorem skipKey_name {name before behind : List Char} {symbols : List Symbol}
    (hb : Blanks before) (hn : Body name symbols) (hr : Blanks behind) (s : List Char) :
    skipKey (before ++ (inQuotes name ++ (behind ++ ':' :: s))) = .ok s := by
  have passed : skipString (name ++ ['"'] ++ (behind ++ ':' :: s)) = .ok (behind ++ ':' :: s) := by
    rw [List.append_assoc]
    exact skipString_body hn _
  rw [skipKey, skipSpace_append hb, inQuotes, List.cons_append, skipSpace_cons (by decide)]
  simp only [passed, ne_eq, not_true, if_false, bind, Except.bind, skipSpace_append hr,
    skipSpace_cons (show isSpace ':' = false by decide), if_true]

theorem passes {node : Node} (h : Spells node s) : Passes node s := by
  -- each case is stated for every stack, so that the brackets of a part are only put on top of it
  induction h with
  | null => exact passes_scalar (by decide) (by decide) (by decide) fun _ => rfl
  | true => exact passes_scalar (by decide) (by decide) (by decide) fun _ => rfl
  | false => exact passes_scalar (by decide) (by decide) (by decide) fun _ => rfl
  | number h =>
    intro stack rest stops
    rw [skipToken_number h stops]
    rfl
  | string h =>
    refine passes_scalar (by decide) (by decide) (by decide) fun rest => ?_
    rw [List.append_assoc]
    exact skipString_body h rest
  | @list ts s h ih =>
    intro stack rest _
    rw [List.cons_append, List.append_assoc]
    refine @skipAll_bracket s stack .list ?_ rest
    cases ts with
    | nil =>
      cases h with
      | noItem blank => exact .inl blank
    | cons t ts => exact .inr ⟨opens_items h, ih (List.cons_ne_nil t ts)⟩
  | @object ms s h ih =>
    intro stack rest _
    rw [List.cons_append, List.append_assoc]
    refine @skipAll_bracket s stack .object ?_ rest
    cases ms with
    | nil =>
      cases h with
      | noMember blank => exact .inl blank
    | cons m ms => exact .inr ⟨opens_members h, ih (List.cons_ne_nil m ms)⟩
  | element hb _ hr ih =>
    intro b stack rest stops
    rw [List.append_assoc, List.append_assoc, skipToken_append hb, ih _ _ (hr.stops stops),
      skipAll_closedValue, skipInside_append hr, skipAll_closedValue]
  | noItem => exact fun some => absurd rfl some
  | lastItem _ ih => exact fun _ => PassesEntry.last (ih .list)
  | items _ _ ih ihr =>
    exact fun _ => PassesEntry.cons (ih .list) (ihr (List.cons_ne_nil _ _))
  | member hb hn hr _ ih =>
    intro stack rest stops
    simp only [List.append_assoc, List.cons_append, skipEntry]
    rw [skipKey_name hb hn hr]
    exact ih .object stack rest stops
  | noMember => exact fun some => absurd rfl some
  | lastMember _ ih => exact fun _ => PassesEntry.last ih
  | members _ _ ih ihr => exact fun _ => PassesEntry.cons ih (ihr (List.cons_ne_nil _ _))

theorem skipValue_element {t : Tree} (h : Spells (.element t) s) :
    ∃ ws, Blanks ws ∧ ∀ rest, Stops rest → skipValue (s ++ rest) = .ok (ws ++ rest) := by
  cases h with
  | @element _ v before behind hb h hr =>
    refine ⟨behind, hr, fun rest stops => ?_⟩
    have passed := passes h [] _ (hr.stops stops)
    rw [skipValue, skipAll_eq (by simp), List.append_assoc, List.append_assoc]
    change onward (skipToken [] _) = _
    rw [skipToken_append hb, passed, skipAll, if_pos ⟨rfl, rfl⟩]

end EventRelay.Json
