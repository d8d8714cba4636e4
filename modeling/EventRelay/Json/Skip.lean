import EventRelay.Json.Lexeme

namespace EventRelay.Json

def skipString (s : List Char) : Except Fault (List Char) :=
  match s with
  | [] => .error (.here .endInString [])
  | c :: s =>
    if c = '"' then .ok s
    else if c = '\\' then
      match s with
      | [] => .error (.here .endInString [])
      | d :: s =>
        if (simpleEscape? d).isSome then skipString s
        else if d = 'u' then
          match h : readHex s with
          | .error e => .error e
          | .ok (_, t) =>
            have : t.length < s.length := readHex_length h
            skipString t
        else .error (.next .invalidEscape (d :: s))
    else if c.toNat < 0x20 then .error (.here .controlCharacter (c :: s))
    else skipString s
termination_by s.length

def skipExponent (s : List Char) : Except Fault (List Char) :=
  match (splitSign s).2 with
  | [] => .error (.next .invalidNumber [])
  | c :: t =>
    if isDigit c then .ok (t.dropWhile isDigit) else .error (.next .invalidNumber (c :: t))

def skipFraction (s : List Char) : Except Fault (List Char) :=
  let after := s.dropWhile isDigit
  if (s.takeWhile isDigit).isEmpty then .error (.next .invalidNumber after)
  else match after with
    | 'e' :: t | 'E' :: t => skipExponent t
    | _ => .ok after

def skipNumber (s : List Char) : Except Fault (List Char) :=
  match s with
  | [] => .error (.next .invalidNumber [])
  | c :: rest =>
    if ¬ isDigit c then .error (.next .invalidNumber (c :: rest))
    else
      let after := if c = '0' then rest else rest.dropWhile isDigit
      if c = '0' ∧ after.head?.any isDigit then .error (.next .invalidNumber after)
      else match after with
        | '.' :: t => skipFraction t
        | 'e' :: t | 'E' :: t => skipExponent t
        | _ => .ok after

inductive Bracket
  | list
  | object
  deriving DecidableEq, Repr

def Bracket.closing : Bracket → Char
  | .list => ']'
  | .object => '}'

def Bracket.cutShort : Bracket → Complaint
  | .list => .endInList
  | .object => .endInObject

def Bracket.unseparated : Bracket → Complaint
  | .list => .expectedListCommaOrEnd
  | .object => .expectedObjectCommaOrEnd

inductive Phase
  | value
  | opened
  | closedValue
  deriving DecidableEq, Repr

def skipKey (s : List Char) : Except Fault (List Char) :=
  match skipSpace s with
  | [] => .error (.next .endInObject [])
  | c :: t =>
    if c ≠ '"' then .error (.next .keyNotString (c :: t))
    else do
      let s ← skipString t
      match skipSpace s with
      | [] => .error (.next .endInObject [])
      | c :: t => if c = ':' then .ok t else .error (.next .expectedColon (c :: t))

def skipScalar (c : Char) (t : List Char) : Except Fault (List Char) :=
  if c = 'n' then readWord ['u', 'l', 'l'] t
  else if c = 't' then readWord ['r', 'u', 'e'] t
  else if c = 'f' then readWord ['a', 'l', 's', 'e'] t
  else if c = '"' then skipString t
  else if c = '-' then skipNumber t
  else if isDigit c then skipNumber (c :: t)
  else .error (.next .expectedValue (c :: t))

def skipToken (stack : List Bracket) (s : List Char) :
    Except Fault (Phase × List Bracket × List Char) :=
  match skipSpace s with
  | [] => .error (.next .endInValue [])
  | c :: t =>
    if c = '[' then .ok (.opened, .list :: stack, t)
    else if c = '{' then .ok (.opened, .object :: stack, t)
    else (skipScalar c t).map fun rest => (.closedValue, stack, rest)

def skipInside (afterValue : Bool) (b : Bracket) (stack : List Bracket) (s : List Char) :
    Except Fault (Phase × List Bracket × List Char) :=
  match skipSpace s with
  | [] => .error (.next b.cutShort [])
  | c :: t =>
    if c = b.closing then .ok (.closedValue, stack, t)
    else if afterValue ∧ c ≠ ',' then .error (.next b.unseparated (c :: t))
    else
      let inner := if afterValue then t else c :: t
      match b with
      | .list => skipToken (.list :: stack) inner
      | .object => do skipToken (.object :: stack) (← skipKey inner)

def skipStep : Phase → List Bracket → List Char → Except Fault (Phase × List Bracket × List Char)
  | .opened, b :: stack, s => skipInside false b stack s
  | .closedValue, b :: stack, s => skipInside true b stack s
  | _, stack, s => skipToken stack s

theorem skipSpace_length_le (s : List Char) : (skipSpace s).length ≤ s.length :=
  (List.dropWhile_sublist _).length_le

theorem length_lt_of_skipSpace {s t : List Char} {c : Char} (h : skipSpace s = c :: t) :
    t.length < s.length := by
  have := skipSpace_length_le s
  rw [h, List.length_cons] at this
  omega

theorem readWord_length_le {word s t : List Char} (h : readWord word s = .ok t) :
    t.length ≤ s.length := by
  induction word generalizing s with
  | nil => simp only [readWord, Except.ok.injEq] at h; simp [h]
  | cons w word ih =>
    cases s with
    | nil => simp [readWord] at h
    | cons c s =>
      rw [readWord] at h
      split at h
      · have := ih h
        simp only [List.length_cons]
        omega
      · simp at h

theorem skipString_length_le {s t : List Char} (h : skipString s = .ok t) :
    t.length ≤ s.length := by
  fun_induction skipString s <;> simp_all <;> omega

theorem skipExponent_length_le {s t : List Char} (h : skipExponent s = .ok t) :
    t.length ≤ s.length := by
  unfold skipExponent at h
  split at h
  · simp at h
  · next c r hs =>
    split at h
    · simp only [Except.ok.injEq] at h
      subst h
      have h₁ := (List.dropWhile_sublist isDigit (l := r)).length_le
      have h₂ : (c :: r).length ≤ s.length := by
        rw [← hs]
        unfold splitSign
        split <;> simp
      simp only [List.length_cons] at h₂
      omega
    · simp at h

theorem dropDigits_length_le (s : List Char) : (s.dropWhile isDigit).length ≤ s.length :=
  (List.dropWhile_sublist _).length_le

theorem skipFraction_length_le {s t : List Char} (h : skipFraction s = .ok t) :
    t.length ≤ s.length := by
  have hd := dropDigits_length_le s
  unfold skipFraction at h
  simp only at h
  split at h
  · simp at h
  · split at h
    · next r hr =>
      have := skipExponent_length_le h
      rw [hr, List.length_cons] at hd
      omega
    · next r hr =>
      have := skipExponent_length_le h
      rw [hr, List.length_cons] at hd
      omega
    · simp only [Except.ok.injEq] at h
      subst h
      exact hd

theorem skipNumber_length_lt {s t : List Char} (h : skipNumber s = .ok t) :
    t.length < s.length := by
  unfold skipNumber at h
  split at h
  · simp at h
  · next c r =>
    split at h
    · simp at h
    · simp only at h
      have hr : (if c = '0' then r else r.dropWhile isDigit).length ≤ r.length := by
        split
        · exact Nat.le_refl _
        · exact dropDigits_length_le r
      generalize (if c = '0' then r else r.dropWhile isDigit) = after at h hr
      split at h
      · simp at h
      · simp only [List.length_cons]
        split at h
        · have := skipFraction_length_le h
          simp only [List.length_cons] at hr
          omega
        · have := skipExponent_length_le h
          simp only [List.length_cons] at hr
          omega
        · have := skipExponent_length_le h
          simp only [List.length_cons] at hr
          omega
        · simp only [Except.ok.injEq] at h
          subst h
          omega

theorem skipKey_length_lt {s t : List Char} (h : skipKey s = .ok t) : t.length < s.length := by
  unfold skipKey at h
  split at h
  · simp at h
  · next c r hs =>
    have h₁ := length_lt_of_skipSpace hs
    split at h
    · simp at h
    · cases hr : skipString r with
      | error e => simp [hr, bind, Except.bind] at h
      | ok s' =>
        simp only [hr, bind, Except.bind] at h
        have h₂ := skipString_length_le hr
        split at h
        · simp at h
        · next d r' hs' =>
          have h₃ := length_lt_of_skipSpace hs'
          split at h
          · simp only [Except.ok.injEq] at h
            subst h
            omega
          · simp at h

theorem skipScalar_length_le {c : Char} {s t : List Char} (h : skipScalar c s = .ok t) :
    t.length ≤ s.length := by
  unfold skipScalar at h
  split at h
  · exact readWord_length_le h
  · split at h
    · exact readWord_length_le h
    · split at h
      · exact readWord_length_le h
      · split at h
        · exact skipString_length_le h
        · split at h
          · exact Nat.le_of_lt (skipNumber_length_lt h)
          · split at h
            · exact Nat.le_of_lt_succ (skipNumber_length_lt h)
            · simp at h

theorem skipToken_length_lt {stack stack' : List Bracket} {phase : Phase} {s t : List Char}
    (h : skipToken stack s = .ok (phase, stack', t)) : t.length < s.length := by
  unfold skipToken at h
  split at h
  · simp at h
  · next c r hs =>
    have hr := length_lt_of_skipSpace hs
    split at h
    · simp only [Except.ok.injEq, Prod.mk.injEq] at h
      obtain ⟨_, _, rfl⟩ := h
      exact hr
    · split at h
      · simp only [Except.ok.injEq, Prod.mk.injEq] at h
        obtain ⟨_, _, rfl⟩ := h
        exact hr
      · cases hk : skipScalar c r with
        | error e => simp [hk, Except.map] at h
        | ok rest =>
          simp only [hk, Except.map, Except.ok.injEq, Prod.mk.injEq] at h
          obtain ⟨_, _, rfl⟩ := h
          have := skipScalar_length_le hk
          omega

theorem skipInside_length_lt {afterValue : Bool} {b : Bracket} {stack stack' : List Bracket}
    {phase : Phase} {s t : List Char}
    (h : skipInside afterValue b stack s = .ok (phase, stack', t)) : t.length < s.length := by
  unfold skipInside at h
  split at h
  · simp at h
  · next c r hs =>
    have hr := length_lt_of_skipSpace hs
    split at h
    · simp only [Except.ok.injEq, Prod.mk.injEq] at h
      obtain ⟨_, _, rfl⟩ := h
      exact hr
    · split at h
      · simp at h
      · simp only at h
        have hi : (if afterValue = true then r else c :: r).length ≤ r.length + 1 := by
          split <;> simp
        generalize (if afterValue = true then r else c :: r) = inner at h hi
        split at h
        · have := skipToken_length_lt h
          omega
        · cases hk : skipKey inner with
          | error e => simp [hk, bind, Except.bind] at h
          | ok s' =>
            simp only [hk, bind, Except.bind] at h
            have := skipKey_length_lt hk
            have := skipToken_length_lt h
            omega

theorem skipStep_length_lt {phase phase' : Phase} {stack stack' : List Bracket} {s t : List Char}
    (h : skipStep phase stack s = .ok (phase', stack', t)) : t.length < s.length := by
  unfold skipStep at h
  split at h
  · exact skipInside_length_lt h
  · exact skipInside_length_lt h
  · exact skipToken_length_lt h

def skipAll (phase : Phase) (stack : List Bracket) (s : List Char) : Except Fault (List Char) :=
  if phase = .closedValue ∧ stack = [] then .ok s
  else
    match h : skipStep phase stack s with
    | .error e => .error e
    | .ok (phase', stack', t) =>
      have : t.length < s.length := skipStep_length_lt h
      skipAll phase' stack' t
termination_by s.length

def skipValue (s : List Char) : Except Fault (List Char) := skipAll .value [] s

end EventRelay.Json
