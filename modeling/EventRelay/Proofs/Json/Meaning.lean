import EventRelay.Proofs.Json.Passing
import EventRelay.Proofs.Json.Results

namespace EventRelay.Json

variable {s rest : List Char}

theorem toOption_bind (x : Except ε α) (f : α → Except ε β) :
    (x >>= f).toOption = x.toOption.bind fun a => (f a).toOption := by
  cases x <;> rfl

theorem toOption_map (x : Except ε α) (f : α → β) : (x.map f).toOption = x.toOption.map f := by
  cases x <;> rfl

theorem readStringFrom_quote (read rest : List Char) :
    readStringFrom read ('"' :: rest) = .ok (read.reverse, rest) := by
  rw [readStringFrom, if_pos rfl]

theorem readStringFrom_slash (read s : List Char) :
    readStringFrom read ('\\' :: s) =
      (readEscape s >>= fun (d, t) => readStringFrom (d :: read) t) := by
  rw [readStringFrom, if_neg (by decide), if_pos rfl]
  split
  · next failed =>
    rw [failed]
    rfl
  · next taken =>
    simp only [taken]
    rfl

def readSymbols (half : Option Nat) (read s : List Char) : Except Fault (List Char × List Char) :=
  match half with
  | none => readStringFrom read s
  | some high => readLowSurrogate high s >>= fun (c, s) => readStringFrom (c :: read) s

theorem readLowSurrogate_plain {c : Char} (slash : c ≠ '\\') (high : Nat) (s : List Char) :
    (readLowSurrogate high (c :: s)).toOption = none := by
  unfold readLowSurrogate
  split
  · rfl
  · next eq =>
    cases eq
    exact absurd rfl slash
  · rfl
  · rfl
  · rfl

theorem readLowSurrogate_escape {c : Char} (other : c ≠ 'u') (high : Nat) (s : List Char) :
    (readLowSurrogate high ('\\' :: c :: s)).toOption = none := by
  unfold readLowSurrogate
  split
  · rfl
  · next eq =>
    cases eq
    exact absurd rfl other
  · rfl
  · rfl
  · rfl

theorem readLowSurrogate_code {a b c d : Char} {digits : List Nat}
    (h : [a, b, c, d].mapM Text.hexValue? = some digits) (high : Nat) (s : List Char) :
    (readLowSurrogate high ('\\' :: 'u' :: a :: b :: c :: d :: s)).toOption =
      let low := Text.number 16 digits
      if IsLow low then
        some (Char.ofNat ((high - 0xD800) * 0x400 + (low - 0xDC00) + 0x10000), s)
      else none := by
  rw [readLowSurrogate, readHex_digits h]
  change Except.toOption (ite _ _ _) = _
  dsimp only
  by_cases low : IsLow (Text.number 16 digits)
  · rw [if_neg (by unfold IsLow at low; omega), if_pos low]
    rfl
  · rw [if_pos (by unfold IsLow at low; omega), if_neg low]
    rfl

theorem readUnicodeEscape_digits {a b c d : Char} {digits : List Nat}
    (h : [a, b, c, d].mapM Text.hexValue? = some digits) (s : List Char) :
    readUnicodeEscape (a :: b :: c :: d :: s) =
      let n := Text.number 16 digits
      if IsLow n then .error (.here .loneSurrogate s)
      else if IsHigh n then readLowSurrogate n s
      else .ok (Char.ofNat n, s) := by
  rw [readUnicodeEscape, readHex_digits h]
  rfl

def behind (read rest : List Char) (cs : Option (List Char)) : Option (List Char × List Char) :=
  cs.map fun cs => (read.reverse ++ cs, rest)

theorem behind_cons (read rest : List Char) (c : Char) (cs : Option (List Char)) :
    behind read rest (cs.map (c :: ·)) = behind (c :: read) rest cs := by
  rw [behind, behind, Option.map_map]
  simp [Function.comp_def]

theorem readSymbols_body {symbols : List Symbol} (h : Body s symbols) (half : Option Nat)
    (read rest : List Char) :
    (readSymbols half read (s ++ '"' :: rest)).toOption =
      behind read rest (textFrom half symbols) := by
  -- a half is joined only with what comes right behind it, so any other symbol ends the reading
  induction h generalizing half read with
  | nil =>
    cases half with
    | none =>
      rw [List.nil_append, readSymbols, readStringFrom_quote, textFrom, behind, Option.map_some,
        List.append_nil]
      rfl
    | some high =>
      rw [List.nil_append, readSymbols, toOption_bind, readLowSurrogate_plain (by decide)]
      rfl
  | @plain c s symbols quote slash printed _ ih =>
    cases half with
    | none =>
      rw [List.cons_append, readSymbols, readStringFrom_plain quote slash printed, textFrom,
        behind_cons]
      exact ih none (c :: read)
    | some high =>
      rw [List.cons_append, readSymbols, toOption_bind, readLowSurrogate_plain slash]
      rfl
  | @escape c d s symbols known _ ih =>
    cases half with
    | none =>
      have taken : readEscape (c :: (s ++ '"' :: rest)) = .ok (d, s ++ '"' :: rest) := by
        rw [readEscape, known]
      rw [List.cons_append, List.cons_append, readSymbols, readStringFrom_slash, taken, textFrom,
        behind_cons]
      exact ih none (d :: read)
    | some high =>
      have other : c ≠ 'u' := by
        rintro rfl
        cases known
      rw [List.cons_append, List.cons_append, readSymbols, toOption_bind,
        readLowSurrogate_escape other]
      rfl
  | @code a b c d digits s symbols known _ ih =>
    simp only [List.cons_append]
    cases half with
    | none =>
      have unknown : simpleEscape? 'u' = none := rfl
      rw [readSymbols, readStringFrom_slash, readEscape, unknown]
      dsimp only
      rw [if_pos rfl, readUnicodeEscape_digits known, textFrom]
      by_cases low : IsLow (Text.number 16 digits)
      · rw [if_pos low, if_pos low]
        rfl
      · rw [if_neg low, if_neg low]
        by_cases high : IsHigh (Text.number 16 digits)
        · rw [if_pos high, if_pos high]
          exact ih (some (Text.number 16 digits)) read
        · rw [if_neg high, if_neg high, behind_cons]
          exact ih none (_ :: read)
    | some high =>
      rw [readSymbols, toOption_bind, readLowSurrogate_code known, textFrom]
      dsimp only
      split
      · rw [behind_cons, Option.bind_some, ← ih none, readSymbols]
      · rfl

theorem readString_body {symbols : List Symbol} (h : Body s symbols) (rest : List Char) :
    (Json.readString (s ++ '"' :: rest)).toOption =
      (content? symbols).map fun text => (text, rest) := by
  have taken := readSymbols_body h none [] rest
  rw [readSymbols] at taken
  rw [Json.readString, toOption_bind, taken, behind, content?, Option.bind_map, Option.map_map]
  cases textFrom none symbols <;> rfl

def int64OfDigits? (minus : Bool) (ds : List Char) : Option Int :=
  let n := Nat.ofDigitChars 10 ds 0
  if minus then if 0 < n ∧ n ≤ Text.maxSigned64 + 1 then some (-n) else none
  else if n ≤ Text.maxSigned64 then some n else none

def readTail (minus : Bool) (n left : Nat) : List Char → Except Fault (Numeral × List Char)
  | '.' :: s => readFraction minus n left s
  | 'e' :: s | 'E' :: s => readExponent minus n left s
  | s =>
    if 0 < left then makeReal minus n left s
    else if ¬ minus then .ok (.natural n, s)
    else if 0 < n ∧ n ≤ Text.maxSigned64 + 1 then .ok (.negative n, s)
    else makeReal minus n 0 s

theorem readNumber_whole {ds : List Char} (h : IsWhole ds) (breaks : Breaks s) (minus : Bool) :
    readNumber minus (ds ++ s) = readTail minus (gatherDigits 0 ds).1 (gatherDigits 0 ds).2 s := by
  cases h with
  | zero =>
    have zero : ¬ ¬ isDigit '0' = true := by decide
    have more : ¬ ('0' = '0' ∧ s.head?.any isDigit = true) := fun h => breaks.head h.2
    rw [List.cons_append, readNumber, List.nil_append, if_neg zero]
    dsimp only
    rw [if_pos rfl, if_pos rfl, if_neg more]
    split <;> first | rfl | (rw [readTail] <;> assumption)
  | @digits d ds zero h =>
    have digit := h.2 d List.mem_cons_self
    have taken := takeDigits_append h.2 breaks
    have dropped := dropDigits_append h.2 breaks
    rw [List.cons_append] at taken dropped ⊢
    rw [readNumber]
    simp only [digit, zero, taken, dropped, not_true, if_false, false_and]
    split <;> first | rfl | (rw [readTail] <;> assumption)

theorem toInt64_real {x : Except Fault (Numeral × List Char)}
    (h : ∀ n rest, x = .ok (n, rest) → n.IsReal) :
    (x >>= fun (n, rest) => n.toInt64 rest).toOption = none := by
  cases x with
  | error e => rfl
  | ok p =>
    obtain ⟨n, rest⟩ := p
    have real := h n rest rfl
    cases n with
    | natural | negative => exact real.elim
    | real => rfl

theorem ofDigitChars_le {ds : List Char} {n : Nat} (fits : n ≤ Text.max64)
    (none : (gatherDigits n ds).2 = 0) : Nat.ofDigitChars 10 ds n ≤ Text.max64 := by
  induction ds generalizing n with
  | nil => exact fits
  | cons d ds ih =>
    rw [gatherDigits] at none
    split at none
    · cases none
    · next small =>
      rw [Nat.ofDigitChars_cons, Nat.mul_comm]
      exact ih (Nat.le_of_not_lt small) none

def readInteger (minus : Bool) (s : List Char) : Except Fault (Int × List Char) :=
  readNumber minus s >>= fun (n, rest) => n.toInt64 rest

theorem readInteger_whole {ds : List Char} (h : IsWhole ds) (stops : Stops rest) (minus : Bool) :
    (readInteger minus (ds ++ rest)).toOption =
      (int64OfDigits? minus ds).map fun n => (n, rest) := by
  have tail (n left : Nat) : readTail minus n left rest =
      if 0 < left then makeReal minus n left rest
      else if ¬ minus then .ok (.natural n, rest)
      else if 0 < n ∧ n ≤ Text.maxSigned64 + 1 then .ok (.negative n, rest)
      else makeReal minus n 0 rest := by
    rw [readTail]
    · exact stops.ne (by decide) (by decide)
    · exact stops.ne (by decide) (by decide)
    · exact stops.ne (by decide) (by decide)
  rw [readInteger, readNumber_whole h stops.breaks, tail, int64OfDigits?]
  by_cases small : Nat.ofDigitChars 10 ds 0 ≤ Text.max64
  · rw [gatherDigits_of_le small]
    generalize Nat.ofDigitChars 10 ds 0 = n at small
    dsimp only
    rw [if_neg (Nat.lt_irrefl 0)]
    cases minus with
    | false =>
      change (if n ≤ Text.maxSigned64 then Except.ok ((n : Int), rest) else _).toOption = _
      split <;> rfl
    | true =>
      rw [if_neg (by decide), if_pos rfl]
      split
      · rfl
      · exact toInt64_real fun n rest => makeReal_isReal
  · have more : 0 < (gatherDigits 0 ds).2 :=
      Nat.pos_of_ne_zero fun none => small (ofDigitChars_le (Nat.zero_le _) none)
    have large : ¬ Nat.ofDigitChars 10 ds 0 ≤ Text.maxSigned64 + 1 := by
      unfold Text.max64 at small
      unfold Text.maxSigned64
      omega
    rw [if_pos more, toInt64_real fun n rest => makeReal_isReal]
    cases minus with
    | false => rw [if_neg (by decide), if_neg (by omega)]; rfl
    | true => rw [if_pos rfl, if_neg (fun fits => large fits.2)]; rfl

theorem readInteger_tail {ds tail : List Char} (h : IsWhole ds) (ht : IsTail tail)
    (some : tail ≠ []) (stops : Stops rest) (minus : Bool) :
    (readInteger minus (ds ++ (tail ++ rest))).toOption = none := by
  rw [readInteger, readNumber_whole h (ht.breaks stops)]
  refine toInt64_real fun n rest read => ?_
  cases ht with
  | nil => exact absurd rfl some
  | exponent h =>
    obtain ⟨rfl | rfl, -, -⟩ := h
    · exact readExponent_isReal read
    · exact readExponent_isReal read
  | fraction => exact readFraction_isReal read

def int64? : List Char → Option Int
  | '-' :: ds => if ds.all isDigit then int64OfDigits? true ds else none
  | ds => if ds.all isDigit then int64OfDigits? false ds else none

namespace Tree

def text? : Tree → Option String
  | .string content => content
  | _ => none

def int64? : Tree → Option Int
  | .number written => Json.int64? written
  | _ => none

def optional? (take : Tree → Option α) : Tree → Option (Option α)
  | .null => some none
  | t => (take t).map some

end Tree

/-- From every value the reader takes what `take` does, and it leaves only blanks behind. -/
def Understands (read : Reader α) (take : Tree → Option α) : Prop :=
  ∀ ⦃t s⦄, Spells (.element t) s → ∃ ws, Blanks ws ∧ ∀ rest, Stops rest →
    (read (s ++ rest)).toOption = (take t).map fun a => (a, ws ++ rest)

theorem Understands.of_value {read : Char → Reader α} {take : Tree → Option α}
    (h : ∀ ⦃t v⦄, Spells (.value t) v → ∀ c u rest, v = c :: u → Stops rest →
      (read c (u ++ rest)).toOption = (take t).map fun a => (a, rest)) :
    Understands (fun s => atValue s read) take := by
  intro t s spelled
  cases spelled with
  | @element _ v before after hb hv hr =>
    obtain ⟨c, u, rfl, space, -⟩ := starts_value hv
    refine ⟨after, hr, fun rest stops => ?_⟩
    have start : skipSpace (before ++ (c :: u ++ after) ++ rest) = c :: (u ++ (after ++ rest)) := by
      rw [List.append_assoc, skipSpace_append hb, List.cons_append, List.cons_append,
        skipSpace_cons space, List.append_assoc]
    simp only [atValue, start]
    exact h hv c u _ rfl (hr.stops stops)

theorem Understands.map {read : Reader α} {take : Tree → Option α} (h : Understands read take)
    (f : α → β) :
    Understands (fun s => (read s).map fun (a, s) => (f a, s)) fun t => (take t).map f := by
  intro t s spelled
  obtain ⟨ws, blank, taken⟩ := h spelled
  refine ⟨ws, blank, fun rest stops => ?_⟩
  rw [toOption_map, taken rest stops, Option.map_map, Option.map_map]
  rfl

theorem IsNumber.head {c : Char} {u : List Char} (h : IsNumber (c :: u)) :
    c = '-' ∨ isDigit c = true := by
  generalize eq : c :: u = s at h
  cases h with
  | plus h =>
    obtain ⟨d, t, rfl, digit⟩ := h.head
    cases eq
    exact .inr digit
  | minus =>
    cases eq
    exact .inl rfl

theorem eq_null {t : Tree} {c : Char} {u : List Char} (h : Spells (.value t) (c :: u))
    (null : c = 'n') : t = .null := by
  generalize eq : c :: u = s at h
  subst null
  cases h with
  | null => rfl
  | number h =>
    subst eq
    rcases h.head with dash | digit
    · cases dash
    · cases digit
  | true | false | string | list | object => cases eq

theorem Understands.optional {read : Reader α} {take : Tree → Option α}
    (h : Understands read take) : Understands (readOptional read) (Tree.optional? take) := by
  intro t s spelled
  cases spelled with
  | @element _ v before after hb hv hr =>
    have start : ∀ rest, skipSpace (before ++ (v ++ after) ++ rest) = v ++ (after ++ rest) := by
      intro rest
      rw [List.append_assoc, skipSpace_append hb, List.append_assoc,
        ((starts_value hv).append _).skipSpace]
    by_cases null : t = .null
    · subst null
      refine ⟨after, hr, fun rest _ => ?_⟩
      cases hv
      rw [readOptional, start]
      rfl
    · obtain ⟨ws, blank, taken⟩ := h (.element blanks_nil hv hr)
      refine ⟨ws, blank, fun rest stops => ?_⟩
      have some : Tree.optional? take t = (take t).map some := by
        cases t with
        | null => exact absurd rfl null
        | bool | number | string | list | object => rfl
      obtain ⟨c, u, rfl, -⟩ := starts_value hv
      have other : c ≠ 'n' := fun same => null (eq_null hv same)
      have step := taken rest stops
      rw [List.nil_append, List.append_assoc] at step
      unfold readOptional
      rw [start]
      split
      · next eq =>
        cases eq
        exact absurd rfl other
      · rw [toOption_bind, step, some, Option.map_map]
        cases take t <;> rfl

theorem understands_text (expected : String) :
    Understands (readText expected) Tree.text? := by
  refine Understands.of_value fun t v spelled c u rest eq _ => ?_
  cases spelled with
  | null | true | false | list | object =>
    cases eq
    rfl
  | number h =>
    subst eq
    have quote : c ≠ '"' := by
      rintro rfl
      rcases h.head with dash | digit
      · cases dash
      · cases digit
    rw [if_neg quote]
    rfl
  | string h =>
    cases eq
    rw [if_pos rfl, List.append_assoc]
    exact readString_body h rest

theorem all_isDigit {ds tail : List Char} (h : IsWhole ds) (ht : IsTail tail) :
    (ds ++ tail).all isDigit = tail.isEmpty := by
  have whole : ds.all isDigit = true := by
    cases h with
    | zero => rfl
    | digits _ h => exact List.all_eq_true.mpr h.2
  have mark : tail.all isDigit = tail.isEmpty := by
    cases ht with
    | nil => rfl
    | exponent h =>
      obtain ⟨rfl | rfl, -, -⟩ := h
      · rfl
      · rfl
    | fraction => rfl
  rw [List.all_append, whole, mark, Bool.true_and]

theorem readInteger_append {ds tail : List Char} (h : IsWhole ds) (ht : IsTail tail)
    (stops : Stops rest) (minus : Bool) :
    (readInteger minus (ds ++ tail ++ rest)).toOption =
      (if (ds ++ tail).all isDigit then int64OfDigits? minus (ds ++ tail) else none).map
        fun n => (n, rest) := by
  rw [all_isDigit h ht]
  cases tail with
  | nil =>
    rw [List.append_nil]
    exact readInteger_whole h stops minus
  | cons c tail =>
    rw [List.append_assoc]
    exact readInteger_tail h ht (List.cons_ne_nil c tail) stops minus

theorem understands_int64 : Understands readInt64 Tree.int64? := by
  refine Understands.of_value fun t v spelled c u rest eq stops => ?_
  cases spelled with
  | null | true | false | list | object | string =>
    cases eq
    rfl
  | number h =>
    cases h with
    | @minus ds tail h ht =>
      cases eq
      exact readInteger_append h ht stops true
    | @plus ds tail h ht =>
      have step := readInteger_append h ht stops false
      obtain ⟨d, t, rfl, digit⟩ := h.head
      cases eq
      have dash : c ≠ '-' := ne_of_isDigit digit rfl
      have plus : Tree.int64? (.number (c :: t ++ tail)) =
          if (c :: t ++ tail).all isDigit then int64OfDigits? false (c :: t ++ tail) else none := by
        rw [Tree.int64?, List.cons_append, int64?]
        rintro ds ⟨⟩
        exact dash rfl
      rw [if_neg dash, if_pos digit, plus]
      exact step

end EventRelay.Json
