import EventRelay.Proofs.Json.OneLine

/-!
The bracket that closes a record. A scan finds it that knows of brackets, strings and escapes, and
of nothing else in the grammar. Main statements: what a reader takes off a text leaves the scan at
the same bracket, so a text that is read as one record ends with that bracket, and only space can
stand behind it.
-/

namespace EventRelay.Json

inductive Scan
  | plain
  | quoted
  | escaped

/-- What stands behind the bracket that closes the one before the text; `depth` more are open. -/
def beyond : Scan → List Char → (depth : Nat) → Option (List Char)
  | _, [], _ => none
  | .plain, c :: s, depth =>
    if c = '"' then beyond .quoted s depth
    else if c = '[' ∨ c = '{' then beyond .plain s (depth + 1)
    else if c = ']' ∨ c = '}' then if depth = 0 then some s else beyond .plain s (depth - 1)
    else beyond .plain s depth
  | .quoted, c :: s, depth =>
    if c = '"' then beyond .plain s depth
    else if c = '\\' then beyond .escaped s depth
    else beyond .quoted s depth
  | .escaped, _ :: s, depth => beyond .quoted s depth

theorem beyond_append {m : Scan} {s rest : List Char} {depth : Nat}
    (h : beyond m s depth = some rest) (t : List Char) :
    beyond m (s ++ t) depth = some (rest ++ t) := by
  fun_induction beyond m s depth <;> simp_all [beyond]

def isMark (c : Char) : Bool := c == '"' || c == '[' || c == '{' || c == ']' || c == '}'

variable {c : Char} {s : List Char}

theorem beyond_unmarked (h : isMark c = false) : beyond .plain (c :: s) = beyond .plain s := by
  funext depth
  simp only [isMark, Bool.or_eq_false_iff, beq_eq_false_iff_ne] at h
  obtain ⟨⟨⟨⟨quote, square⟩, curly⟩, square'⟩, curly'⟩ := h
  simp [beyond, quote, square, curly, square', curly']

theorem beyond_inside (quote : c ≠ '"') (slash : c ≠ '\\') :
    beyond .quoted (c :: s) = beyond .quoted s := by
  funext depth
  simp [beyond, quote, slash]

theorem beyond_slash : beyond .quoted ('\\' :: s) = beyond .escaped s := rfl

theorem beyond_escaped : beyond .escaped (c :: s) = beyond .quoted s := rfl

theorem beyond_dropWhile {p : Char → Bool} (h : ∀ c, p c = true → isMark c = false)
    (s : List Char) : beyond .plain (s.dropWhile p) = beyond .plain s := by
  induction s with
  | nil => rfl
  | cons c s ih =>
    rw [List.dropWhile_cons]
    split
    · next taken => rw [ih, beyond_unmarked (h c taken)]
    · rfl

theorem not_isMark_of_isSpace (h : isSpace c = true) : isMark c = false := by
  simp only [isSpace, Bool.or_eq_true, beq_iff_eq] at h
  rcases h with ((rfl | rfl) | rfl) | rfl <;> rfl

theorem not_isMark_of_isDigit (h : isDigit c = true) : isMark c = false := by
  rw [Bool.eq_false_iff]
  intro mark
  simp only [isMark, Bool.or_eq_true, beq_iff_eq] at mark
  rcases mark with (((rfl | rfl) | rfl) | rfl) | rfl <;> revert h <;> decide

theorem beyond_skipSpace (s : List Char) : beyond .plain (skipSpace s) = beyond .plain s :=
  beyond_dropWhile (fun _ => not_isMark_of_isSpace) s

theorem beyond_dropDigits (s : List Char) :
    beyond .plain (s.dropWhile isDigit) = beyond .plain s :=
  beyond_dropWhile (fun _ => not_isMark_of_isDigit) s

/-- What is seen of a text before a step is seen of what the step leaves of it. -/
def Keeps (seen : List Char → β) (left : α → β) (f : List Char → Except Fault α) : Prop :=
  ∀ ⦃s a⦄, f s = .ok a → seen s = left a

/-- The reader takes off as many closing brackets as opening ones, and whole strings. -/
def Balances (read : Reader α) : Prop := Keeps (beyond .plain) (fun (_, rest) => beyond .plain rest) read

section Steps

variable {seen : List Char → β} {left : α → β} {f g : List Char → Except Fault α}

theorem keeps_error (e : List Char → Fault) : Keeps seen left fun s => .error (e s) := by
  intro s a h
  cases h

theorem keeps_ok : Keeps seen seen .ok := by
  intro s a h
  cases h
  rfl

theorem balances_done (a : α) : Balances fun s => .ok (a, s) := by
  rintro s ⟨b, rest⟩ h
  cases h
  rfl

theorem Keeps.ite {q : Prop} [Decidable q] (hf : q → Keeps seen left f)
    (hg : ¬ q → Keeps seen left g) : Keeps seen left fun s => if q then f s else g s := by
  intro s a h
  dsimp only at h
  split at h
  · next yes => exact hf yes h
  · next no => exact hg no h

theorem Keeps.bind {skip : List Char → Except Fault (List Char)} {seen' : List Char → β}
    {next : List Char → Except Fault α} (h : Keeps seen seen' skip) (hn : Keeps seen' left next) :
    Keeps seen left fun s => skip s >>= next := by
  intro s a taken
  obtain ⟨t, step, taken⟩ := bind_eq_ok.mp taken
  exact (h step).trans (hn taken)

theorem Keeps.then {read : Reader γ} {seen' : List Char → β}
    {next : γ × List Char → Except Fault α} (h : Keeps seen (fun (_, rest) => seen' rest) read)
    (hn : ∀ c, Keeps seen' left fun s => next (c, s)) :
    Keeps seen left fun s => read s >>= next := by
  intro s a taken
  obtain ⟨⟨c, t⟩, step, taken⟩ := bind_eq_ok.mp taken
  exact (h step).trans (hn c taken)

theorem Keeps.map {read : Reader γ} {seen' : List Char → β}
    (h : Keeps seen (fun (_, rest) => seen' rest) read) (k : γ → α) :
    Keeps seen (fun (_, rest) => seen' rest) fun s => (read s).map fun (a, s) => (k a, s) := by
  rintro s ⟨b, rest⟩ taken
  obtain ⟨⟨a, t⟩, step, same⟩ := map_eq_ok.mp taken
  cases same
  exact h step

end Steps

section Steps

variable {left : α → Nat → Option (List Char)} {f : List Char → Except Fault α}

theorem Keeps.unmarked (h : Keeps (beyond .plain) left f) (hc : isMark c = false) :
    Keeps (fun s => beyond .plain (c :: s)) left f := by
  intro s a taken
  exact (beyond_unmarked hc).trans (h taken)

theorem Keeps.first {f : Char → List Char → Except Fault α}
    (h : ∀ c, isSpace c = false → Keeps (fun s => beyond .plain (c :: s)) left (f c)) (e : Fault) :
    Keeps (beyond .plain) left fun s => match skipSpace s with
      | [] => .error e
      | c :: t => f c t := by
  intro s a taken
  dsimp only at taken
  split at taken
  · cases taken
  · next c t first =>
    rw [← beyond_skipSpace, first]
    exact h c (not_isSpace_of_skipSpace first) taken

end Steps

theorem unmarked_of_all {word : List Char} (h : word.all (!isMark ·) = true) :
    ∀ w ∈ word, isMark w = false := by
  simpa using h

theorem keeps_word {word : List Char} (h : ∀ w ∈ word, isMark w = false) :
    Keeps (beyond .plain) (beyond .plain) (readWord word) := by
  intro s rest taken
  induction word generalizing s with
  | nil =>
    cases taken
    rfl
  | cons w word ih =>
    cases s with
    | nil => cases taken
    | cons c s =>
      rw [readWord] at taken
      split at taken
      · next same =>
        rw [beyond_unmarked (same ▸ h w List.mem_cons_self)]
        exact ih (fun w hw => h w (List.mem_cons_of_mem _ hw)) taken
      · cases taken

theorem beyond_hexDigit {n : Nat} (h : Text.hexValue? c = some n) :
    beyond .quoted (c :: s) = beyond .quoted s := by
  apply beyond_inside
  · rintro rfl
    cases h
  · rintro rfl
    cases h

def StaysInside (read : Reader α) : Prop :=
  Keeps (beyond .quoted) (fun (_, rest) => beyond .quoted rest) read

theorem staysInside_done (a : α) : StaysInside fun s => .ok (a, s) := by
  rintro s ⟨b, rest⟩ h
  cases h
  rfl

theorem staysInside_hex : StaysInside readHex := by
  rintro s ⟨n, rest⟩ h
  unfold readHex at h
  split at h
  · next a b c d s =>
    split at h
    · next digits value =>
      cases h
      simp only [List.mapM_cons, Option.bind_eq_bind, Option.bind_eq_some_iff] at value
      obtain ⟨_, ha, _, ⟨_, hb, _, ⟨_, hc, _, ⟨_, hd, -⟩, -⟩, -⟩, -⟩ := value
      rw [beyond_hexDigit ha, beyond_hexDigit hb, beyond_hexDigit hc, beyond_hexDigit hd]
    · cases h
  · split at h <;> cases h

theorem staysInside_lowSurrogate (high : Nat) : StaysInside (readLowSurrogate high) := by
  intro s a h
  unfold readLowSurrogate at h
  split at h
  · cases h
  · next s =>
    rw [beyond_slash, beyond_escaped]
    obtain ⟨⟨low, t⟩, hex, h⟩ := bind_eq_ok.mp h
    rw [← Except.ok.inj (of_ite_error h)]
    exact staysInside_hex hex
  · cases h
  · cases h
  · cases h

theorem staysInside_unicodeEscape : StaysInside readUnicodeEscape :=
  staysInside_hex.then fun n => .ite (fun _ => keeps_error _) fun _ =>
    .ite (fun _ => staysInside_lowSurrogate n) fun _ => staysInside_done _

theorem keeps_escape :
    Keeps (beyond .escaped) (fun (_, rest) => beyond .quoted rest) readEscape := by
  intro s a h
  cases s with
  | nil => cases h
  | cons c s =>
    rw [beyond_escaped]
    rw [readEscape] at h
    split at h
    · cases h
      rfl
    · split at h
      · exact staysInside_unicodeEscape h
      · cases h

theorem keeps_stringFrom (read : List Char) :
    Keeps (beyond .quoted) (fun (_, rest) => beyond .plain rest) (readStringFrom read) := by
  rintro s ⟨cs, rest⟩ h
  fun_induction readStringFrom read s with
  | case1 => cases h
  | case2 read s =>
    cases h
    rfl
  | case3 => cases h
  | case4 read s d t escape shorter notQuote ih => exact (keeps_escape escape).trans (ih h)
  | case5 => cases h
  | case6 read c s notQuote notEscape printed ih =>
    rw [beyond_inside notQuote notEscape]
    exact ih h

theorem keeps_string : Keeps (beyond .quoted) (fun (_, rest) => beyond .plain rest) readString :=
  (keeps_stringFrom []).then fun cs => balances_done (String.ofList cs)

theorem keeps_skipString : Keeps (beyond .quoted) (beyond .plain) skipString := by
  intro s rest h
  fun_induction skipString s with
  | case1 => cases h
  | case2 s =>
    cases h
    rfl
  | case3 => cases h
  | case4 d s simple notQuote ih => exact ih h
  | case5 => cases h
  | case6 s n t hex shorter notQuote notSimple ih =>
    exact (staysInside_hex hex).trans (ih h)
  | case7 => cases h
  | case8 => cases h
  | case9 c s notQuote notEscape printed ih =>
    rw [beyond_inside notQuote notEscape]
    exact ih h

theorem beyond_splitSign (s : List Char) :
    beyond .plain (splitSign s).2 = beyond .plain s := by
  unfold splitSign
  split
  · rw [beyond_unmarked rfl]
  · rw [beyond_unmarked rfl]
  · rfl

section Numbers

variable {minus : Bool} {significand : Nat} {scale : Int}

theorem balances_real : Balances (makeReal minus significand scale) := by
  rintro s ⟨n, rest⟩ h
  unfold makeReal at h
  split at h
  · cases h
    rfl
  · cases h

theorem balances_exponent : Balances (readExponent minus significand scale) := by
  rintro s ⟨n, rest⟩ h
  unfold readExponent at h
  rw [← beyond_splitSign]
  generalize splitSign s = signed at h ⊢
  obtain ⟨down, t⟩ := signed
  dsimp only at h ⊢
  cases t with
  | nil => cases h
  | cons c t =>
    dsimp only at h
    split at h
    · rw [← beyond_dropDigits]
      split at h
      · exact balances_real h
      · cases of_ite_error h
        rfl
    · cases h

theorem balances_fraction : Balances (readFraction minus significand scale) := by
  intro s a h
  unfold readFraction at h
  dsimp only at h
  rw [← beyond_dropDigits]
  split at h
  · cases h
  · split at h
    · next t after =>
      rw [after, beyond_unmarked rfl]
      exact balances_exponent h
    · next t after =>
      rw [after, beyond_unmarked rfl]
      exact balances_exponent h
    · exact balances_real h

theorem beyond_whole (digit : isDigit c = true) :
    beyond .plain (if c = '0' then s else (c :: s).dropWhile isDigit) = beyond .plain (c :: s) := by
  split
  · rw [beyond_unmarked (not_isMark_of_isDigit digit)]
  · exact beyond_dropDigits _

theorem balances_number : Balances (readNumber minus) := by
  intro s a h
  unfold readNumber at h
  split at h
  · cases h
  · next c s =>
    split at h
    · cases h
    · next digit =>
      rw [← beyond_whole (Decidable.not_not.mp digit)]
      dsimp only at h
      generalize (if c = '0' then s else (c :: s).dropWhile isDigit) = after at h ⊢
      split at h
      · cases h
      · split at h
        · rw [beyond_unmarked rfl]
          exact balances_fraction h
        · rw [beyond_unmarked rfl]
          exact balances_exponent h
        · rw [beyond_unmarked rfl]
          exact balances_exponent h
        · have integer (left n : Nat) : Balances fun s =>
              if 0 < left then makeReal minus n left s
              else if ¬ minus then .ok (.natural n, s)
              else if 0 < n ∧ n ≤ Text.maxSigned64 + 1 then .ok (.negative n, s)
              else makeReal minus n 0 s :=
            .ite (fun _ => balances_real) fun _ =>
              .ite (fun _ => balances_done _) fun _ =>
                .ite (fun _ => balances_done _) fun _ => balances_real
          exact integer _ _ h

end Numbers

end EventRelay.Json
