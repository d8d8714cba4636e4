import EventRelay.Proofs.Text.Number
import EventRelay.Proofs.Toml.Strings
import Mathlib.Data.List.Basic

namespace EventRelay.Toml

open Text (maxSigned64)

variable {c d : Char} {ds s rest : List Char} {n : Nat}

def Scalar.value : Scalar → Value
  | .string s => .string s
  | .integer n => .integer n
  | .boolean b => .boolean b
  | .strings items => .array (items.map .string)

/-- Numbers are natural ones that 64 bits with a sign can hold. -/
def Scalar.Fits : Scalar → Prop
  | .integer n => ∃ m : Nat, m ≤ maxSigned64 ∧ n = m
  | _ => True

theorem isDigit_of_mem_toDigits (h : c ∈ Nat.toDigits 10 n) : isDigit c = true :=
  Text.isDigit_of_mem_toDigits h

theorem ne_of_isDigit (digit : isDigit c = true) (other : isDigit d = false) : c ≠ d := by
  rintro rfl
  rw [digit] at other
  cases other

theorem numberOf_digits (digits : ∀ d ∈ ds, isDigit d = true) :
    numberOf 10 ds = Nat.ofDigitChars 10 ds 0 := by
  rw [← Text.foldl_digits, numberOf]
  refine List.foldl_ext _ _ _ fun n d hd => ?_
  rw [digitValue, if_pos (digits d hd)]

theorem readDigits_digits (digits : ∀ d ∈ ds, isDigit d = true) (read : List Char)
    (full : read ++ ds ≠ []) (rest : List Char) {fuel : Nat} (enough : ds.length < fuel) :
    readDigits isDigit read fuel (ds ++ '\n' :: rest) = some (read.reverse ++ ds, '\n' :: rest) := by
  induction ds generalizing read fuel with
  | nil =>
    obtain ⟨fuel, rfl⟩ := Nat.exists_eq_add_of_lt enough
    rw [List.append_nil] at full
    simp [readDigits, full, isDigit]
  | cons d ds ih =>
    obtain ⟨digit, digits⟩ := List.forall_mem_cons.mp digits
    obtain ⟨fuel, rfl⟩ := Nat.exists_eq_add_of_lt enough
    have other : d ≠ '_' := ne_of_isDigit digit rfl
    rw [List.cons_append, readDigits]
    · rw [if_pos digit, ih digits (d :: read) (by simp) (Nat.lt_of_succ_lt_succ enough)]
      simp
    · exact fun _ _ same => absurd same other

theorem digitsOf_digits (digits : ∀ d ∈ ds, isDigit d = true) (full : ds ≠ [])
    (rest : List Char) : digitsOf isDigit (ds ++ '\n' :: rest) = some (ds, '\n' :: rest) :=
  readDigits_digits digits [] full rest (by rw [List.length_append]; omega)

theorem readDecimal_toDigits (n : Nat) (rest : List Char) :
    readDecimal (Nat.toDigits 10 n ++ '\n' :: rest) = some (Nat.toDigits 10 n, '\n' :: rest) := by
  have digits : ∀ d ∈ Nat.toDigits 10 n, isDigit d = true := fun _ => isDigit_of_mem_toDigits
  have all := digitsOf_digits digits Nat.toDigits_ne_nil rest
  cases hd : Nat.toDigits 10 n with
  | nil => exact absurd hd Nat.toDigits_ne_nil
  | cons d ds =>
    rw [hd] at all
    by_cases zero : d = '0'
    · subst zero
      obtain ⟨-, rfl⟩ := Text.toDigits_head_zero hd
      rfl
    · rw [← all, List.cons_append, readDecimal]
      intro _ same
      exact zero (List.cons.inj same).1

theorem readFixed_digits (digits : ∀ d ∈ ds, isDigit d = true) (count : Nat) (rest : List Char) :
    readFixed count (ds ++ '\n' :: rest) = none ∨
      ∃ n, readFixed count (ds ++ '\n' :: rest) = some (n, ds.drop count ++ '\n' :: rest) := by
  rw [readFixed]
  by_cases few : count ≤ ds.length
  · refine .inr ⟨numberOf 10 (ds.take count), ?_⟩
    rw [List.take_append_of_le_length few, List.drop_append_of_le_length few, if_pos]
    exact ⟨List.length_take_of_le few,
      List.all_eq_true.mpr fun d hd => digits d (List.mem_of_mem_take hd)⟩
  · refine .inl (if_neg fun fixed => ?_)
    have line : '\n' ∈ (ds ++ '\n' :: rest).take count := by
      obtain ⟨more, rfl⟩ := Nat.exists_eq_add_of_lt (Nat.lt_of_not_le few)
      rw [List.take_append, Nat.add_assoc, Nat.add_sub_cancel_left]
      exact List.mem_append_right _ List.mem_cons_self
    cases List.all_eq_true.mp fixed.2 _ line

theorem expect_digits (digits : ∀ d ∈ ds, isDigit d = true) (other : isDigit c = false)
    (line : c ≠ '\n') (rest : List Char) : expect c (ds ++ '\n' :: rest) = none := by
  cases ds with
  | nil => simp [expect, line.symm]
  | cons d ds =>
    have digit := digits d List.mem_cons_self
    simp [expect, ne_of_isDigit digit other]

theorem readDate_digits (digits : ∀ d ∈ ds, isDigit d = true) (rest : List Char) :
    readDate (ds ++ '\n' :: rest) = none := by
  have below (count : Nat) : ∀ d ∈ ds.drop count, isDigit d = true :=
    fun d hd => digits d (List.mem_of_mem_drop hd)
  have date : skipDate (ds ++ '\n' :: rest) = none := by
    rw [skipDate]
    rcases readFixed_digits digits 4 rest with none | ⟨n, some⟩
    · rw [none]
      rfl
    · simp [some, expect_digits (below 4) (show isDigit '-' = false from rfl) (by decide)]
  have time : skipTime (ds ++ '\n' :: rest) = none := by
    rw [skipTime]
    rcases readFixed_digits digits 2 rest with none | ⟨n, some⟩
    · rw [none]
      rfl
    · simp [some, expect_digits (below 2) (show isDigit ':' = false from rfl) (by decide)]
  rw [readDate, date, time]
  rfl

theorem readSign_digits (digits : ∀ d ∈ ds, isDigit d = true) (rest : List Char) :
    readSign (ds ++ '\n' :: rest) = (false, ds ++ '\n' :: rest) := by
  cases ds with
  | nil => rfl
  | cons d ds =>
    have digit := digits d List.mem_cons_self
    rw [List.cons_append, readSign]
    · exact fun _ same => ne_of_isDigit digit rfl (List.cons.inj same).1
    · exact fun _ same => ne_of_isDigit digit rfl (List.cons.inj same).1

theorem ne_of_toDigits_append {u : List Char} (other : isDigit c = false) :
    Nat.toDigits 10 n ++ rest ≠ c :: u := by
  cases hd : Nat.toDigits 10 n with
  | nil => exact absurd hd Nat.toDigits_ne_nil
  | cons d ds =>
    intro same
    have digit : isDigit d = true := isDigit_of_mem_toDigits (hd ▸ List.mem_cons_self)
    exact ne_of_isDigit digit other (List.cons.inj same).1

theorem readFloat_toDigits (n : Nat) (rest : List Char) :
    readFloat (Nat.toDigits 10 n ++ '\n' :: rest) = none := by
  rw [readFloat, readSign_digits (fun _ => isDigit_of_mem_toDigits)]
  dsimp only
  split
  · next same => exact absurd same (ne_of_toDigits_append rfl)
  · next same => exact absurd same (ne_of_toDigits_append rfl)
  · rw [readDecimal_toDigits]
    rfl

theorem eq_of_toDigits_append {u : List Char}
    (same : Nat.toDigits 10 n ++ '\n' :: rest = '0' :: c :: u) : c = '\n' := by
  cases hd : Nat.toDigits 10 n with
  | nil => exact absurd hd Nat.toDigits_ne_nil
  | cons d ds =>
    rw [hd, List.cons_append, List.cons.injEq] at same
    obtain ⟨rfl, same⟩ := same
    obtain ⟨-, rfl⟩ := Text.toDigits_head_zero hd
    exact (List.cons.inj same).1.symm

theorem readInteger_toDigits (small : n ≤ maxSigned64) (rest : List Char) :
    readInteger (Nat.toDigits 10 n ++ '\n' :: rest) = some (.integer n, '\n' :: rest) := by
  have digits : ∀ d ∈ Nat.toDigits 10 n, isDigit d = true := fun _ => isDigit_of_mem_toDigits
  have value : numberOf 10 (Nat.toDigits 10 n) = n := by
    rw [numberOf_digits digits, Nat.ofDigitChars_ten_toDigits]
  have fits : inRange n = true := by
    simp only [inRange, Bool.and_eq_true, decide_eq_true_eq]
    omega
  rw [readInteger]
  · rw [readSign_digits digits]
    dsimp only
    rw [readDecimal_toDigits]
    simp [value, fits]
  all_goals
    intro _ same
    cases eq_of_toDigits_append same

theorem readNumber_toDigits (small : n ≤ maxSigned64) (rest : List Char) :
    readNumber (Nat.toDigits 10 n ++ '\n' :: rest) = some (.integer n, '\n' :: rest) := by
  rw [readNumber, readDate_digits (fun _ => isDigit_of_mem_toDigits), readFloat_toDigits,
    readInteger_toDigits small]
  rfl

def IsSolid (c : Char) : Prop := c ∉ [' ', '\t', '#', '\n', '\r']

instance : DecidablePred IsSolid := fun _ => inferInstanceAs (Decidable (¬ _))

theorem skipSpace_solid (solid : IsSolid c) (s : List Char) : skipSpace (c :: s) = c :: s := by
  simp only [IsSolid, List.mem_cons, List.not_mem_nil, not_or] at solid
  simp [skipSpace, isSpace, solid]

theorem skipLines_of_skipSpace (solid : IsSolid c) (skip : skipSpace s = c :: rest) (fuel : Nat) :
    skipLines (fuel + 1) s = c :: rest := by
  simp only [IsSolid, List.mem_cons, List.not_mem_nil, not_or] at solid
  simp [skipLines, skip, skipComment, newline?, solid]

theorem skipLines_solid (solid : IsSolid c) (fuel : Nat) (s : List Char) :
    skipLines fuel (c :: s) = c :: s := by
  cases fuel with
  | zero => rfl
  | succ fuel => exact skipLines_of_skipSpace solid (skipSpace_solid solid s) fuel

theorem skipLines_spaces (solid : IsSolid c) (count fuel : Nat) (s : List Char) :
    skipLines (fuel + 1) (List.replicate count ' ' ++ c :: s) = c :: s := by
  refine skipLines_of_skipSpace solid ?_ fuel
  rw [skipSpace, List.dropWhile_append_of_pos]
  · exact skipSpace_solid solid s
  · intro d hd
    rw [List.eq_of_mem_replicate hd]
    rfl

theorem skipLines_newline (fuel : Nat) (s : List Char) :
    skipLines (fuel + 1) ('\n' :: s) = skipLines fuel s := rfl

theorem readValue_quote (quote : c = '"' ∨ c = '\x27') (depth : Nat) (s : List Char) :
    readValue depth (c :: s) = (readString (c :: s)).map fun (v, s) => (.string v, s) := by
  unfold readValue
  exact if_pos quote

theorem readValue_digit (digit : isDigit c = true) (depth : Nat) (s : List Char) :
    readValue depth (c :: s) = readNumber (c :: s) := by
  have double : c ≠ '"' := ne_of_isDigit digit rfl
  have single : c ≠ '\x27' := ne_of_isDigit digit rfl
  have bracket : c ≠ '[' := ne_of_isDigit digit rfl
  have brace : c ≠ '\x7b' := ne_of_isDigit digit rfl
  unfold readValue
  simp [double, single, bracket, brace, digit]

theorem readValue_bracket (depth : Nat) (s : List Char) :
    readValue (depth + 1) ('[' :: s) = (readItems (readValue depth) [] (s.length + 1) s).map
      fun (vs, s) => (.array vs, s) := by
  rw [readValue.eq_def]
  rfl

theorem renderString_head (s : String) :
    ∃ q t, renderString s = q :: t ∧ (q = '"' ∨ q = '\x27') := by
  rw [renderString]
  cases Style.choose s.toList
  · exact ⟨_, _, rfl, .inl rfl⟩
  · exact ⟨_, _, rfl, .inr rfl⟩
  · exact ⟨_, _, rfl, .inl rfl⟩
  · exact ⟨_, _, rfl, .inr rfl⟩

theorem readValue_string (depth : Nat) (s : String) (single : c ≠ '\x27') (double : c ≠ '"')
    (rest : List Char) :
    readValue depth (renderString s ++ c :: rest) = some (.string s, c :: rest) := by
  have whole := readString_renderString s single double rest
  obtain ⟨q, t, shown, quote⟩ := renderString_head s
  rw [shown, List.cons_append] at whole ⊢
  rw [readValue_quote quote, whole]
  rfl

theorem readItems_item {read : Reader Value} {v : Value} (start : skipLines s.length s = c :: rest)
    (other : c ≠ ']') (item : read (c :: rest) = some (v, d :: ds)) (solid : IsSolid d)
    (done : List Value) (fuel : Nat) :
    readItems read done (fuel + 1) s =
      match d :: ds with
      | ',' :: s => readItems read (v :: done) fuel s
      | ']' :: s => some ((v :: done).reverse, s)
      | _ => none := by
  rw [readItems, start]
  split
  · next same => exact absurd (List.cons.inj same).1 other
  · rw [item, Option.bind_eq_bind, Option.bind_some]
    dsimp only
    generalize behind : skipLines (d :: ds).length (d :: ds) = left
    cases behind.symm.trans (skipLines_solid solid _ _)
    rfl

theorem skipLines_line (solid : IsSolid c) (count : Nat) (s : List Char) :
    skipLines ('\n' :: (List.replicate (count + 1) ' ' ++ c :: s)).length
      ('\n' :: (List.replicate (count + 1) ' ' ++ c :: s)) = c :: s := by
  rw [List.length_cons, skipLines_newline]
  exact skipLines_spaces solid (count + 1) _ s

def itemLines (items : List String) : List Char :=
  items.flatMap fun s => List.replicate 4 ' ' ++ renderString s ++ [',', '\n']

theorem itemLines_cons (s : String) (items : List String) (rest : List Char) :
    itemLines (s :: items) ++ rest =
      List.replicate 4 ' ' ++ (renderString s ++ ',' :: '\n' :: (itemLines items ++ rest)) := by
  simp [itemLines]

theorem length_le_itemLines (items : List String) : items.length ≤ (itemLines items).length := by
  induction items with
  | nil => exact Nat.le_refl _
  | cons s items ih =>
    have shape := congrArg List.length (itemLines_cons s items [])
    simp only [List.length_append, List.length_cons, List.length_replicate] at shape ⊢
    omega

theorem readItems_lines (depth : Nat) (items : List String) (done : List Value) (rest : List Char)
    {fuel : Nat} (enough : items.length < fuel) :
    readItems (readValue depth) done fuel ('\n' :: (itemLines items ++ ']' :: rest)) =
      some (done.reverse ++ items.map .string, rest) := by
  induction items generalizing done fuel with
  | nil =>
    obtain ⟨fuel, rfl⟩ := Nat.exists_eq_add_of_lt enough
    have close := skipLines_solid (show IsSolid ']' by decide) (rest.length + 1) rest
    simp [itemLines, readItems, skipLines_newline, close]
  | cons s items ih =>
    obtain ⟨fuel, rfl⟩ := Nat.exists_eq_add_of_lt enough
    rw [List.length_cons] at enough
    have item := readValue_string depth s (c := ',') (by decide) (by decide)
      ('\n' :: (itemLines items ++ ']' :: rest))
    obtain ⟨q, t, shown, quote⟩ := renderString_head s
    have solid : IsSolid q ∧ q ≠ ']' := by
      rcases quote with rfl | rfl <;> decide
    rw [shown, List.cons_append] at item
    rw [itemLines_cons, shown, List.cons_append]
    refine (readItems_item (skipLines_line solid.1 3 _) solid.2 item (by decide) done _).trans ?_
    refine (ih (.string s :: done) ?_).trans ?_
    · rw [List.length_cons]
      omega
    · simp

theorem readValue_strings (depth : Nat) (items : List String) (rest : List Char) :
    readValue (depth + 1) ((Scalar.strings items).render ++ '\n' :: rest) =
      some (.array (items.map .string), '\n' :: rest) := by
  match items with
  | [] =>
    have close := skipLines_solid (show IsSolid ']' by decide) (rest.length + 2) ('\n' :: rest)
    change readValue _ ('[' :: ']' :: '\n' :: rest) = _
    simp [readValue_bracket, readItems, close]
  | [s] =>
    have item := readValue_string depth s (c := ']') (by decide) (by decide) ('\n' :: rest)
    obtain ⟨q, t, shown, quote⟩ := renderString_head s
    have solid : IsSolid q ∧ q ≠ ']' := by
      rcases quote with rfl | rfl <;> decide
    rw [shown] at item
    have step := readItems_item (skipLines_solid solid.1 _ _) solid.2 item (by decide) []
      (q :: (t ++ ']' :: '\n' :: rest)).length
    simpa [Scalar.render, shown, readValue_bracket] using step
  | s :: t :: items =>
    have lines {fuel : Nat} (enough : (s :: t :: items).length < fuel) :=
      readItems_lines depth (s :: t :: items) [] ('\n' :: rest) enough
    have few := length_le_itemLines (s :: t :: items)
    change readValue _ ('[' :: '\n' :: (itemLines (s :: t :: items) ++ [']'] ++ '\n' :: rest)) = _
    rw [readValue_bracket, List.append_assoc, List.singleton_append, lines]
    · rfl
    · simp only [List.length_cons, List.length_append] at few ⊢
      omega

theorem render_integer (n : Nat) : (Scalar.integer n).render = Nat.toDigits 10 n :=
  Nat.toList_repr

theorem readValue_render {v : Scalar} (fits : v.Fits) (depth : Nat) (rest : List Char) :
    readValue (depth + 1) (v.render ++ '\n' :: rest) = some (v.value, '\n' :: rest) := by
  cases v with
  | string s => exact readValue_string _ s (by decide) (by decide) rest
  | integer n =>
    obtain ⟨n, small, rfl⟩ := fits
    have number := readNumber_toDigits small rest
    rw [render_integer]
    cases hd : Nat.toDigits 10 n with
    | nil => exact absurd hd Nat.toDigits_ne_nil
    | cons d ds =>
      rw [hd] at number
      exact (readValue_digit (isDigit_of_mem_toDigits (hd ▸ List.mem_cons_self)) _ _).trans number
  | boolean b => cases b <;> rfl
  | strings items => exact readValue_strings depth items rest

end EventRelay.Toml
