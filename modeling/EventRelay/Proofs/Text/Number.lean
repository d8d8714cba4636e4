import EventRelay.Text.Number

namespace EventRelay.Text

theorem isBlank_of_isDigit {c : Char} (h : c.isDigit = true) : isBlank c = false := by
  have low : 48 ≤ c.toNat ∧ c.toNat ≤ 57 := by
    simpa [Char.isDigit, Char.le_def, UInt32.le_iff_toNat_le] using h
  simp [isBlank]
  omega

/-- The text is made of decimal digits, after a plus sign or not, that stand for the number. -/
def Numeral (s : String) (n : Nat) : Prop :=
  ∃ digits : List Char, digits ≠ [] ∧ (∀ c ∈ digits, c.isDigit) ∧
    (s.toList = digits ∨ s.toList = '+' :: digits) ∧ Nat.ofDigitChars 10 digits 0 = n

theorem foldl_digits (digits : List Char) :
    digits.foldl (fun n d => n * 10 + (d.toNat - 48)) 0 = Nat.ofDigitChars 10 digits 0 := by
  simp only [Nat.ofDigitChars_eq_foldl, Nat.mul_comm 10]
  rfl

def unsigned : List Char → List Char
  | '+' :: digits => digits
  | digits => digits

theorem unsigned_of_digits {cs digits : List Char} (decimal : ∀ c ∈ digits, c.isDigit)
    (signed : cs = digits ∨ cs = '+' :: digits) : unsigned cs = digits := by
  rcases signed with rfl | rfl
  · unfold unsigned
    split
    · have := decimal '+' List.mem_cons_self
      cases this
    · rfl
  · rfl

theorem eq_or_eq_cons_unsigned (cs : List Char) : cs = unsigned cs ∨ cs = '+' :: unsigned cs := by
  unfold unsigned
  split
  · exact .inr rfl
  · exact .inl rfl

theorem parseNat?_eq (max : Nat) (s : String) :
    parseNat? max s =
      if (unsigned s.toList).isEmpty ∨ ¬ (unsigned s.toList).all Char.isDigit then none
      else if Nat.ofDigitChars 10 (unsigned s.toList) 0 ≤ max then
        some (Nat.ofDigitChars 10 (unsigned s.toList) 0)
      else none := by
  simp only [parseNat?, foldl_digits]
  rfl

theorem parseNat?_of_digits {s : String} {digits : List Char} (nonempty : digits ≠ [])
    (decimal : ∀ c ∈ digits, c.isDigit) (signed : s.toList = digits ∨ s.toList = '+' :: digits)
    (max : Nat) :
    parseNat? max s = if Nat.ofDigitChars 10 digits 0 ≤ max then
      some (Nat.ofDigitChars 10 digits 0) else none := by
  rw [parseNat?_eq, unsigned_of_digits decimal signed, if_neg]
  rw [not_or, Classical.not_not, List.isEmpty_iff, List.all_eq_true]
  exact ⟨nonempty, decimal⟩

theorem parseNat?_eq_some_iff {max n : Nat} {s : String} :
    parseNat? max s = some n ↔ Numeral s n ∧ n ≤ max := by
  constructor
  · intro h
    rw [parseNat?_eq] at h
    obtain ⟨digits, h⟩ := Option.ite_none_left_eq_some.mp h
    rw [not_or, Classical.not_not, List.isEmpty_iff, List.all_eq_true] at digits
    obtain ⟨small, h⟩ := Option.ite_none_right_eq_some.mp h
    cases h
    exact ⟨⟨_, digits.1, digits.2, eq_or_eq_cons_unsigned _, rfl⟩, small⟩
  · rintro ⟨⟨digits, nonempty, decimal, signed, rfl⟩, small⟩
    rw [parseNat?_of_digits nonempty decimal signed, if_pos small]

theorem isDigit_of_mem_toDigits {n : Nat} {c : Char} (h : c ∈ Nat.toDigits 10 n) :
    c.isDigit = true :=
  Nat.isDigit_of_mem_toDigits (by decide) (by decide) h

theorem toDigits_head_zero {n : Nat} {ds : List Char} (h : Nat.toDigits 10 n = '0' :: ds) :
    n = 0 ∧ ds = [] := by
  induction n using Nat.strongRecOn generalizing ds with
  | ind n ih =>
    by_cases small : n < 10
    · have digit : ∀ m < 10, Nat.digitChar m = '0' → m = 0 := by decide
      rw [Nat.toDigits_of_lt_base small, List.cons.injEq] at h
      exact ⟨digit n small h.1, h.2.symm⟩
    · have large : 10 ≤ n := Nat.le_of_not_lt small
      rw [Nat.toDigits_of_base_le (by decide) large] at h
      cases hd : Nat.toDigits 10 (n / 10) with
      | nil => exact absurd hd Nat.toDigits_ne_nil
      | cons d rest =>
        rw [hd, List.cons_append, List.cons.injEq] at h
        -- The first digit of `n / 10` is that of `n`, but `n / 10` is not zero.
        rw [h.1] at hd
        have := (ih (n / 10) (by omega) hd).1
        omega

theorem parseNat?_toDigits (max n : Nat) :
    parseNat? max (String.ofList (Nat.toDigits 10 n)) = if n ≤ max then some n else none := by
  have decimal : ∀ c ∈ Nat.toDigits 10 n, c.isDigit = true := fun _ => isDigit_of_mem_toDigits
  rw [parseNat?_of_digits Nat.toDigits_ne_nil decimal (.inl String.toList_ofList),
    Nat.ofDigitChars_ten_toDigits]

end EventRelay.Text
