import EventRelay.Proofs.Json.Scalars

namespace EventRelay.Json

theorem bind_eq_ok {x : Except ε α} {f : α → Except ε β} {b : β} :
    x >>= f = .ok b ↔ ∃ a, x = .ok a ∧ f a = .ok b := by
  cases x with
  | error e =>
    constructor
    · intro h
      cases h
    · rintro ⟨a, h, -⟩
      cases h
  | ok a =>
    constructor
    · intro h
      exact ⟨a, rfl, h⟩
    · rintro ⟨_, h, result⟩
      cases h
      exact result

theorem map_eq_ok {x : Except ε α} {f : α → β} {b : β} :
    x.map f = .ok b ↔ ∃ a, x = .ok a ∧ f a = b := by
  cases x <;> simp [Except.map]

theorem of_ite_error {q : Prop} [Decidable q] {e : ε} {x : Except ε α} {a : α}
    (h : (if q then .error e else x) = .ok a) : x = .ok a := by
  split at h
  · cases h
  · exact h

/-- Whatever the reader takes off a text has the property. -/
def Gives (read : Reader α) (p : α → Prop) : Prop :=
  ∀ ⦃s a rest⦄, read s = .ok (a, rest) → p a

variable {read : Reader α} {p : α → Prop}

theorem gives_trivial (read : Reader α) : Gives read fun _ => True := fun _ _ _ _ => trivial

theorem atValue_eq_ok {s rest : List Char} {read : Char → Reader α} {a : α}
    (h : atValue s read = .ok (a, rest)) : ∃ c t, read c t = .ok (a, rest) := by
  unfold atValue at h
  split at h
  · cases h
  · next c t _ => exact ⟨c, t, h⟩

section Numbers

variable {minus : Bool} {n : Numeral} {s rest : List Char}

def Numeral.IsReal : Numeral → Prop
  | .real .. => True
  | .natural _ | .negative _ => False

theorem makeReal_isReal {significand : Nat} {exponent : Int}
    (h : makeReal minus significand exponent s = .ok (n, rest)) : n.IsReal := by
  unfold makeReal at h
  split at h
  · cases h
    trivial
  · cases h

theorem readExponent_isReal {significand : Nat} {scale : Int}
    (h : readExponent minus significand scale s = .ok (n, rest)) : n.IsReal := by
  unfold readExponent at h
  dsimp only at h
  split at h
  · cases h
  · split at h
    · split at h
      · exact makeReal_isReal h
      · have taken := of_ite_error h
        cases taken
        trivial
    · cases h

theorem readFraction_isReal {significand : Nat} {scale : Int}
    (h : readFraction minus significand scale s = .ok (n, rest)) : n.IsReal := by
  unfold readFraction at h
  dsimp only at h
  split at h
  · cases h
  · split at h
    · exact readExponent_isReal h
    · exact readExponent_isReal h
    · exact makeReal_isReal h

theorem readNumber_negative {m : Nat} (h : readNumber minus s = .ok (.negative m, rest)) :
    m ≤ Text.maxSigned64 + 1 := by
  unfold readNumber at h
  split at h
  · cases h
  · next c s =>
    generalize (if c = '0' then [c] else (c :: s).takeWhile isDigit) = digits at h
    generalize (if c = '0' then s else (c :: s).dropWhile isDigit) = after at h
    dsimp only at h
    split at h
    · cases h
    · split at h
      · cases h
      · split at h
        · exact (readFraction_isReal h).elim
        · exact (readExponent_isReal h).elim
        · exact (readExponent_isReal h).elim
        · split at h
          · exact (makeReal_isReal h).elim
          · split at h
            · cases h
            · split at h
              · next fits =>
                cases h
                exact fits.2
              · exact (makeReal_isReal h).elim

theorem toInt64_isInt64 {i : Int} {t : List Char} (h : readNumber minus s = .ok (n, t))
    (taken : n.toInt64 t = .ok (i, rest)) : IsInt64 i := by
  unfold Numeral.toInt64 at taken
  split at taken
  · split at taken
    · next fits =>
      cases taken
      unfold IsInt64
      omega
    · cases taken
  · have fits := readNumber_negative h
    cases taken
    unfold IsInt64
    omega
  · cases taken

theorem gives_int64 : Gives readInt64 IsInt64 := by
  intro s i rest h
  obtain ⟨c, t, h⟩ := atValue_eq_ok h
  dsimp only at h
  split at h
  · obtain ⟨⟨n, u⟩, number, taken⟩ := bind_eq_ok.mp h
    exact toInt64_isInt64 number taken
  · split at h
    · obtain ⟨⟨n, u⟩, number, taken⟩ := bind_eq_ok.mp h
      exact toInt64_isInt64 number taken
    · cases h

end Numbers

theorem Gives.map (h : Gives read p) (f : α → β) {q : β → Prop} (keeps : ∀ a, p a → q (f a)) :
    Gives (fun s => (read s).map fun (a, s) => (f a, s)) q := by
  intro s b rest taken
  obtain ⟨⟨a, t⟩, step, same⟩ := map_eq_ok.mp taken
  cases same
  exact keeps a (h step)

theorem Gives.optional (h : Gives read p) : Gives (readOptional read) fun o => ∀ a ∈ o, p a := by
  intro s o rest taken
  unfold readOptional at taken
  split at taken
  · obtain ⟨_, -, done⟩ := bind_eq_ok.mp taken
    cases done
    intro a ha
    cases ha
  · obtain ⟨⟨a, t⟩, step, done⟩ := bind_eq_ok.mp taken
    cases done
    intro b hb
    cases hb
    exact h step

theorem Gives.once (h : Gives read p) (name : String) (known : Option α) :
    Gives (readOnce name known read) fun o => ∀ a ∈ o, p a := by
  intro s o rest taken
  unfold readOnce at taken
  split at taken
  · cases taken
  · obtain ⟨⟨a, t⟩, member, done⟩ := bind_eq_ok.mp taken
    cases done
    obtain ⟨u, -, step⟩ := bind_eq_ok.mp member
    intro b hb
    cases hb
    exact h step

theorem Gives.next (h : Gives read p) (first : Bool) :
    Gives (readNext first read) fun o => ∀ a ∈ o, p a := by
  intro s o rest taken
  obtain ⟨⟨more, t⟩, -, taken⟩ := bind_eq_ok.mp taken
  dsimp only at taken
  split at taken
  · obtain ⟨⟨a, u⟩, step, done⟩ := bind_eq_ok.mp taken
    cases done
    intro b hb
    cases hb
    exact h step
  · cases taken
    intro a ha
    cases ha

theorem Gives.members {field : String → σ → Reader σ} {p : σ → Prop}
    (keeps : ∀ key k, p k → Gives (field key k) p) (fuel : Nat) (first : Bool) {k : σ} (h : p k) :
    Gives (readMembers field fuel first k) p := by
  -- the property holds of what has been gathered so far, whichever members are still to come
  induction fuel generalizing first k with
  | zero =>
    intro s k' rest taken
    cases taken
  | succ fuel ih =>
    intro s k' rest taken
    obtain ⟨⟨key, t⟩, -, taken⟩ := bind_eq_ok.mp taken
    cases key with
    | none =>
      cases taken
      exact h
    | some key =>
      obtain ⟨⟨k'', u⟩, step, taken⟩ := bind_eq_ok.mp taken
      exact ih false (keeps key k h step) taken

theorem Gives.record {positional named : Reader α} (hp : Gives positional p) (hn : Gives named p)
    (expected : String) : Gives (readRecord expected positional named) p := by
  intro s a rest taken
  obtain ⟨c, t, taken⟩ := atValue_eq_ok taken
  dsimp only at taken
  split at taken
  · obtain ⟨⟨b, u⟩, step, taken⟩ := bind_eq_ok.mp taken
    obtain ⟨_, -, done⟩ := bind_eq_ok.mp taken
    cases done
    exact hp step
  · split at taken
    · obtain ⟨⟨b, u⟩, step, taken⟩ := bind_eq_ok.mp taken
      obtain ⟨_, -, done⟩ := bind_eq_ok.mp taken
      cases done
      exact hn step
    · cases taken

theorem Gives.whole (h : Gives read p) {text : List Char} {a : α}
    (taken : readWhole read text = .ok a) : p a := by
  obtain ⟨⟨b, rest⟩, step, taken⟩ := bind_eq_ok.mp taken
  dsimp only at taken
  split at taken
  · cases taken
    exact h step
  · cases taken

end EventRelay.Json
