import EventRelay.Proofs.Json.Results

/-!
A JSON text with a space in place of each line break. In a text that is read, a line break stands
only where any space may stand. Main statement: what is read from a text is read from it in one
line, by every reader that is made of such readers.
-/

namespace EventRelay.Json

/-- A space in place of a line break. -/
def unbroken (c : Char) : Char := if c = '\r' ∨ c = '\n' then ' ' else c

def oneLine (s : List Char) : List Char := s.map unbroken

variable {c : Char} {s t rest : List Char}

theorem isSpace_unbroken (c : Char) : isSpace (unbroken c) = isSpace c := by
  unfold unbroken
  split
  · next h => rcases h with rfl | rfl <;> rfl
  · rfl

theorem unbroken_of_not_isSpace (h : isSpace c = false) : unbroken c = c := by
  unfold unbroken
  rw [if_neg]
  rintro (rfl | rfl) <;> cases h

theorem not_isSpace_of_le (h : ¬ c.toNat < 0x20) (h' : c ≠ ' ') : isSpace c = false := by
  have feed : c ≠ '\n' := by rintro rfl; exact h (by decide)
  have tab : c ≠ '\t' := by rintro rfl; exact h (by decide)
  have ret : c ≠ '\r' := by rintro rfl; exact h (by decide)
  simp [isSpace, h', feed, tab, ret]

theorem not_isSpace_of_isDigit (h : isDigit c = true) : isSpace c = false := by
  rw [Bool.eq_false_iff]
  intro space
  simp only [isSpace, Bool.or_eq_true, beq_iff_eq] at space
  rcases space with ((rfl | rfl) | rfl) | rfl <;> revert h <;> decide

theorem unbroken_of_le (h : ¬ c.toNat < 0x20) : unbroken c = c := by
  by_cases blank : c = ' '
  · rw [blank]
    rfl
  · exact unbroken_of_not_isSpace (not_isSpace_of_le h blank)

theorem isDigit_unbroken (c : Char) : isDigit (unbroken c) = isDigit c := by
  unfold unbroken
  split
  · next h => rcases h with rfl | rfl <;> rfl
  · rfl

@[simp] theorem oneLine_nil : oneLine [] = [] := rfl

theorem oneLine_cons (h : isSpace c = false) : oneLine (c :: s) = c :: oneLine s := by
  rw [oneLine, List.map_cons, unbroken_of_not_isSpace h, oneLine]

@[simp] theorem length_oneLine (s : List Char) : (oneLine s).length = s.length :=
  List.length_map ..

@[simp] theorem isEmpty_oneLine (s : List Char) : (oneLine s).isEmpty = s.isEmpty :=
  List.isEmpty_map

theorem oneLine_eq_cons (h : isSpace c = false) :
    oneLine s = c :: t ↔ ∃ u, s = c :: u ∧ oneLine u = t := by
  cases s with
  | nil => simp
  | cons d u =>
    rw [oneLine, List.map_cons, List.cons.injEq]
    constructor
    · rintro ⟨same, rfl⟩
      rw [← same, isSpace_unbroken] at h
      rw [unbroken_of_not_isSpace h] at same
      exact ⟨u, by rw [same], rfl⟩
    · rintro ⟨_, same, rfl⟩
      cases same
      exact ⟨unbroken_of_not_isSpace h, rfl⟩

theorem skipSpace_oneLine (s : List Char) : skipSpace (oneLine s) = oneLine (skipSpace s) := by
  have same : isSpace ∘ unbroken = isSpace := funext isSpace_unbroken
  rw [skipSpace, oneLine, List.dropWhile_map, same]
  rfl

theorem not_isSpace_of_skipSpace (h : skipSpace s = c :: t) : isSpace c = false := by
  have first := List.head?_dropWhile_not isSpace s
  rw [← skipSpace, h] at first
  simpa using first

theorem skipSpace_oneLine_cons (h : skipSpace s = c :: t) :
    skipSpace (oneLine s) = c :: oneLine t := by
  rw [skipSpace_oneLine, h, oneLine_cons (not_isSpace_of_skipSpace h)]

theorem skipSpace_oneLine_nil (h : skipSpace s = []) : skipSpace (oneLine s) = [] := by
  rw [skipSpace_oneLine, h, oneLine_nil]

theorem takeDigits_oneLine (s : List Char) :
    (oneLine s).takeWhile isDigit = s.takeWhile isDigit := by
  induction s with
  | nil => rfl
  | cons c s ih =>
    rw [oneLine, List.map_cons, List.takeWhile_cons, List.takeWhile_cons, isDigit_unbroken]
    split
    · next digit =>
      rw [unbroken_of_not_isSpace (not_isSpace_of_isDigit digit)]
      exact congrArg _ ih
    · rfl

theorem dropDigits_oneLine (s : List Char) :
    (oneLine s).dropWhile isDigit = oneLine (s.dropWhile isDigit) := by
  have same : isDigit ∘ unbroken = isDigit := funext isDigit_unbroken
  rw [oneLine, List.dropWhile_map, same]
  rfl

/-- What the function makes of a text it makes of the text in one line, up to what is left of it. -/
def Follows (f : List Char → Except Fault α) (left : α → α) : Prop :=
  ∀ ⦃s a⦄, f s = .ok a → f (oneLine s) = .ok (left a)

def Steady (read : Reader α) : Prop := Follows read fun (a, rest) => (a, oneLine rest)

theorem steady_done (a : α) : Steady fun s => .ok (a, s) := by
  rintro s ⟨b, rest⟩ h
  cases h
  rfl

section Choices

variable {f g : List Char → Except Fault α} {left : α → α}

theorem follows_error (e : List Char → Fault) : Follows (fun s => .error (e s)) left := by
  intro s a h
  cases h

theorem Follows.ite {q : Prop} [Decidable q] (hf : q → Follows f left) (hg : ¬ q → Follows g left) :
    Follows (fun s => if q then f s else g s) left := by
  intro s a h
  dsimp only at h ⊢
  split at h
  · next yes =>
    rw [if_pos yes]
    exact hf yes h
  · next no =>
    rw [if_neg no]
    exact hg no h

theorem Follows.exponent (hf : Follows f left) (hg : Follows g left) :
    Follows (fun s => match s with
      | 'e' :: t | 'E' :: t => f t
      | _ => g s) left := by
  intro s a h
  dsimp only at h ⊢
  split at h
  · rw [oneLine_cons rfl]
    exact hf h
  · rw [oneLine_cons rfl]
    exact hf h
  · next small capital =>
    split
    · next same =>
      obtain ⟨u, rfl, -⟩ := (oneLine_eq_cons rfl).mp same
      exact absurd rfl (small u)
    · next same =>
      obtain ⟨u, rfl, -⟩ := (oneLine_eq_cons rfl).mp same
      exact absurd rfl (capital u)
    · exact hg h

theorem Follows.point {p : List Char → Except Fault α} (hp : Follows p left) (hf : Follows f left)
    (hg : Follows g left) :
    Follows (fun s => match s with
      | '.' :: t => p t
      | 'e' :: t | 'E' :: t => f t
      | _ => g s) left := by
  intro s a h
  dsimp only at h ⊢
  split at h
  · rw [oneLine_cons rfl]
    exact hp h
  · rw [oneLine_cons rfl]
    exact hf h
  · rw [oneLine_cons rfl]
    exact hf h
  · next point small capital =>
    split
    · next same =>
      obtain ⟨u, rfl, -⟩ := (oneLine_eq_cons rfl).mp same
      exact absurd rfl (point u)
    · next same =>
      obtain ⟨u, rfl, -⟩ := (oneLine_eq_cons rfl).mp same
      exact absurd rfl (small u)
    · next same =>
      obtain ⟨u, rfl, -⟩ := (oneLine_eq_cons rfl).mp same
      exact absurd rfl (capital u)
    · exact hg h

end Choices

theorem Steady.bind {read : Reader α} {next : α × List Char → Except Fault β} {left : β → β}
    (h : Steady read) (hn : ∀ a, Follows (fun s => next (a, s)) left) :
    Follows (fun s => read s >>= next) left := by
  intro s b taken
  obtain ⟨⟨a, rest⟩, step, taken⟩ := bind_eq_ok.mp taken
  exact bind_eq_ok.mpr ⟨_, h step, hn a taken⟩

theorem Steady.map {read : Reader α} (h : Steady read) (f : α → β) :
    Steady fun s => (read s).map fun (a, s) => (f a, s) := by
  rintro s ⟨b, rest⟩ taken
  obtain ⟨⟨a, t⟩, step, same⟩ := map_eq_ok.mp taken
  cases same
  exact map_eq_ok.mpr ⟨_, h step, rfl⟩

theorem follows_ok : Follows .ok oneLine := by
  intro s rest h
  cases h
  rfl

theorem Follows.bind {skip : List Char → Except Fault (List Char)}
    {next : List Char → Except Fault α} {left : α → α} (h : Follows skip oneLine)
    (hn : Follows next left) : Follows (fun s => skip s >>= next) left := by
  intro s a taken
  obtain ⟨t, step, taken⟩ := bind_eq_ok.mp taken
  exact bind_eq_ok.mpr ⟨_, h step, hn taken⟩

theorem Follows.behind {f : List Char → Except Fault α} {left : α → α} (h : Follows f left)
    {c : Char} (plain : isSpace c = false) : Follows (fun s => f (c :: s)) left := by
  intro s a taken
  dsimp only
  rw [← oneLine_cons plain]
  exact h taken

theorem follows_word {word : List Char} (plain : ∀ w ∈ word, isSpace w = false) :
    Follows (readWord word) oneLine := by
  intro s rest h
  induction word generalizing s with
  | nil =>
    cases h
    rfl
  | cons w word ih =>
    cases s with
    | nil => cases h
    | cons c s =>
      rw [readWord] at h
      split at h
      · next same =>
        subst same
        rw [oneLine_cons (plain c List.mem_cons_self), readWord, if_pos rfl]
        exact ih (fun w hw => plain w (List.mem_cons_of_mem _ hw)) h
      · cases h

theorem hexValue?_unbroken (c : Char) : Text.hexValue? (unbroken c) = Text.hexValue? c := by
  unfold unbroken
  split
  · next h => rcases h with rfl | rfl <;> rfl
  · rfl

theorem simpleEscape?_unbroken (c : Char) : simpleEscape? (unbroken c) = simpleEscape? c := by
  unfold unbroken
  split
  · next h => rcases h with rfl | rfl <;> rfl
  · rfl

theorem steady_hex : Steady readHex := by
  rintro s ⟨n, rest⟩ h
  unfold readHex at h
  split at h
  · next a b c d s =>
    split at h
    · next digits value =>
      cases h
      have same : [unbroken a, unbroken b, unbroken c, unbroken d].mapM Text.hexValue? =
          [a, b, c, d].mapM Text.hexValue? := by
        simp only [List.mapM_cons, hexValue?_unbroken]
      change readHex (unbroken a :: unbroken b :: unbroken c :: unbroken d :: oneLine rest) = _
      rw [readHex, same, value]
    · cases h
  · split at h <;> cases h

theorem steady_lowSurrogate (high : Nat) : Steady (readLowSurrogate high) := by
  intro s a h
  unfold readLowSurrogate at h
  split at h
  · cases h
  · obtain ⟨⟨low, t⟩, hex, h⟩ := bind_eq_ok.mp h
    rw [oneLine_cons rfl, oneLine_cons rfl, readLowSurrogate]
    refine bind_eq_ok.mpr ⟨_, steady_hex hex, ?_⟩
    dsimp only at h ⊢
    split at h
    · cases h
    · next paired =>
      rw [Except.ok.injEq] at h
      rw [if_neg paired, ← h]
  · cases h
  · cases h
  · cases h

theorem steady_unicodeEscape : Steady readUnicodeEscape := by
  unfold readUnicodeEscape
  refine steady_hex.bind fun n => ?_
  exact .ite (fun _ => follows_error _) fun _ =>
    .ite (fun _ => steady_lowSurrogate n) fun _ => steady_done _

theorem steady_escape : Steady readEscape := by
  intro s a h
  cases s with
  | nil => cases h
  | cons c s =>
    rw [oneLine, List.map_cons, ← oneLine]
    rw [readEscape] at h ⊢
    rw [simpleEscape?_unbroken]
    split at h
    · cases h
      rfl
    · split at h
      · next unicode =>
        subst unicode
        exact steady_unicodeEscape h
      · cases h

theorem steady_stringFrom (read : List Char) : Steady (readStringFrom read) := by
  rintro s ⟨cs, rest⟩ h
  -- along the characters of the string; an escape takes several of them at once
  fun_induction readStringFrom read s with
  | case1 => cases h
  | case2 read s =>
    cases h
    rw [oneLine_cons rfl, readStringFrom, if_pos rfl]
  | case3 => cases h
  | case4 read s d t escape shorter notQuote ih =>
    rw [oneLine_cons rfl, readStringFrom, if_neg notQuote, if_pos rfl]
    split
    · next failed =>
      rw [steady_escape escape] at failed
      cases failed
    · next d' t' taken =>
      rw [steady_escape escape] at taken
      cases taken
      exact ih h
  | case5 => cases h
  | case6 read c s notQuote notEscape printed ih =>
    rw [oneLine, List.map_cons, unbroken_of_le printed, ← oneLine]
    rw [readStringFrom, if_neg notQuote, if_neg notEscape, if_neg printed]
    exact ih h

theorem steady_string : Steady Json.readString :=
  (steady_stringFrom []).bind fun cs => steady_done (String.ofList cs)

section Numbers

variable {minus : Bool} {significand : Nat} {scale : Int}

theorem steady_real : Steady (makeReal minus significand scale) := by
  rintro s ⟨n, rest⟩ h
  unfold makeReal at h ⊢
  split at h
  · cases h
    rfl
  · cases h

theorem splitSign_oneLine (s : List Char) :
    splitSign (oneLine s) = ((splitSign s).1, oneLine (splitSign s).2) := by
  unfold splitSign
  split
  · next t same =>
    obtain ⟨u, rfl, rfl⟩ := (oneLine_eq_cons rfl).mp same
    rfl
  · next t same =>
    obtain ⟨u, rfl, rfl⟩ := (oneLine_eq_cons rfl).mp same
    rfl
  · next plus minus =>
    split
    · exact absurd (oneLine_cons rfl) (plus _)
    · exact absurd (oneLine_cons rfl) (minus _)
    · rfl

theorem steady_exponent : Steady (readExponent minus significand scale) := by
  rintro s ⟨n, rest⟩ h
  have sign := splitSign_oneLine s
  unfold readExponent at h ⊢
  rw [sign]
  generalize splitSign s = signed at h ⊢
  obtain ⟨down, t⟩ := signed
  dsimp only at h ⊢
  cases t with
  | nil => cases h
  | cons c t =>
    dsimp only at h
    split at h
    · next digit =>
      have plain := not_isSpace_of_isDigit digit
      rw [oneLine_cons plain]
      dsimp only
      rw [if_pos digit, ← oneLine_cons plain, takeDigits_oneLine, dropDigits_oneLine]
      split at h
      · exact steady_real h
      · split at h
        · cases h
        · next fits =>
          cases h
          rw [if_neg fits]
    · cases h

theorem steady_fraction : Steady (readFraction minus significand scale) := by
  intro s a h
  unfold readFraction at h ⊢
  rw [takeDigits_oneLine, dropDigits_oneLine]
  dsimp only at h ⊢
  split at h
  · cases h
  · next digits =>
    rw [if_neg digits]
    exact steady_exponent.exponent steady_real h

theorem headDigit_oneLine (s : List Char) :
    (oneLine s).head?.any isDigit = s.head?.any isDigit := by
  cases s with
  | nil => rfl
  | cons c s => exact isDigit_unbroken c

theorem steady_number : Steady (readNumber minus) := by
  intro s a h
  unfold readNumber at h
  split at h
  · cases h
  · next c s =>
    split at h
    · cases h
    · next digit =>
      have plain := not_isSpace_of_isDigit (Decidable.not_not.mp digit)
      rw [oneLine_cons plain, readNumber, if_neg digit]
      dsimp only at h ⊢
      rw [← oneLine_cons plain, takeDigits_oneLine, dropDigits_oneLine, ← apply_ite oneLine]
      generalize gatherDigits 0 (if c = '0' then [c] else (c :: s).takeWhile isDigit) = gathered
        at h ⊢
      generalize (if c = '0' then s else (c :: s).dropWhile isDigit) = after at h ⊢
      obtain ⟨n, left⟩ := gathered
      rw [headDigit_oneLine]
      split at h
      · cases h
      · next leading =>
        rw [if_neg leading]
        have integer : Steady fun s =>
            if 0 < left then makeReal minus n left s
            else if ¬ minus then .ok (.natural n, s)
            else if 0 < n ∧ n ≤ Text.maxSigned64 + 1 then .ok (.negative n, s)
            else makeReal minus n 0 s :=
          .ite (fun _ => steady_real) fun _ =>
            .ite (fun _ => steady_done _) fun _ =>
              .ite (fun _ => steady_done _) fun _ => steady_real
        exact steady_fraction.point steady_exponent integer h

end Numbers

end EventRelay.Json
