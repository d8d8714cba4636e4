import EventRelay.Json.Reader
import EventRelay.Proofs.Text.Number

namespace EventRelay.Json

inductive Ends : List Char → Prop
  | text : Ends []
  | item (s : List Char) : Ends (',' :: s)
  | list (s : List Char) : Ends (']' :: s)
  | object (s : List Char) : Ends ('}' :: s)

/-- A reader takes a value off its text, whatever comes behind it. -/
def Reads (read : Reader α) (text : List Char) (a : α) : Prop :=
  ∀ rest, Ends rest → read (text ++ rest) = .ok (a, rest)

def IsPrinted (text : List Char) : Prop := ∀ c ∈ text, 0x20 ≤ c.toNat

theorem isPrinted_of_all {text : List Char} (h : text.all (0x20 ≤ ·.toNat) = true) :
    IsPrinted text :=
  fun c hc => of_decide_eq_true (List.all_eq_true.mp h c hc)

theorem IsPrinted.append {s t : List Char} (hs : IsPrinted s) (ht : IsPrinted t) :
    IsPrinted (s ++ t) :=
  fun c hc => (List.mem_append.mp hc).elim (hs c) (ht c)

theorem IsPrinted.cons {c : Char} {s : List Char} (hc : 0x20 ≤ c.toNat) (hs : IsPrinted s) :
    IsPrinted (c :: s) :=
  fun _ hd => (List.mem_cons.mp hd).elim (fun e => e ▸ hc) (hs _)

theorem IsPrinted.not_mem {s : List Char} (hs : IsPrinted s) {c : Char} (hc : c.toNat < 0x20) :
    c ∉ s :=
  fun h => Nat.not_le_of_lt hc (hs c h)

theorem isBlank_of_isSpace {c : Char} (h : isSpace c = true) : Text.isBlank c = true := by
  simp only [isSpace, Bool.or_eq_true, beq_iff_eq] at h
  rcases h with ((rfl | rfl) | rfl) | rfl <;> decide

theorem skipSpace_cons {c : Char} (h : isSpace c = false) (s : List Char) :
    skipSpace (c :: s) = c :: s := by
  simp [skipSpace, h]

theorem readStringFrom_plain {c : Char} (quote : c ≠ '"') (slash : c ≠ '\\')
    (printed : ¬ c.toNat < 0x20) (read s : List Char) :
    readStringFrom read (c :: s) = readStringFrom (c :: read) s := by
  rw [readStringFrom, if_neg quote, if_neg slash, if_neg printed]

theorem readStringFrom_escape {s t : List Char} {d : Char} (h : readEscape s = .ok (d, t))
    (read : List Char) : readStringFrom read ('\\' :: s) = readStringFrom (d :: read) t := by
  rw [readStringFrom, if_neg (by decide), if_pos rfl]
  split
  · next e he =>
    rw [h] at he
    cases he
  · next d' t' he =>
    rw [h] at he
    cases he
    rfl

theorem readEscape_control {c : Char} (h : c.toNat < 0x20) (s : List Char) :
    readEscape ('u' :: '0' :: '0' :: hexDigit (c.toNat / 16) :: hexDigit (c.toNat % 16) :: s) =
      .ok (c, s) := by
  have digits : ∀ n < 0x20, ['0', '0', hexDigit (n / 16), hexDigit (n % 16)].mapM
      Text.hexValue? = some [0, 0, n / 16, n % 16] := by decide
  have number : ∀ n < 0x20, Text.number 16 [0, 0, n / 16, n % 16] = n := by decide
  have hex : readHex ('0' :: '0' :: hexDigit (c.toNat / 16) :: hexDigit (c.toNat % 16) :: s) =
      .ok (c.toNat, s) := by
    simp only [readHex, digits _ h, number _ h]
  have simple : simpleEscape? 'u' = none := by decide
  simp only [readEscape, simple, if_true, readUnicodeEscape, hex]
  change (if 0xDC00 ≤ c.toNat ∧ c.toNat ≤ 0xDFFF then _
    else if 0xD800 ≤ c.toNat ∧ c.toNat ≤ 0xDBFF then _
    else Except.ok (Char.ofNat c.toNat, s)) = _
  rw [if_neg (by omega), if_neg (by omega), Char.ofNat_toNat]

theorem readStringFrom_escapeChar (c : Char) (read s : List Char) :
    readStringFrom read (escapeChar c ++ s) = readStringFrom (c :: read) s := by
  unfold escapeChar
  by_cases quote : c = '"'
  · subst quote
    exact readStringFrom_escape rfl read
  by_cases slash : c = '\\'
  · subst slash
    exact readStringFrom_escape rfl read
  rw [if_neg quote, if_neg slash]
  by_cases back : c = '\x08'
  · subst back
    exact readStringFrom_escape rfl read
  by_cases tab : c = '\t'
  · subst tab
    exact readStringFrom_escape rfl read
  by_cases feed : c = '\n'
  · subst feed
    exact readStringFrom_escape rfl read
  by_cases page : c = '\x0c'
  · subst page
    exact readStringFrom_escape rfl read
  by_cases ret : c = '\r'
  · subst ret
    exact readStringFrom_escape rfl read
  rw [if_neg back, if_neg tab, if_neg feed, if_neg page, if_neg ret]
  by_cases control : c.toNat < 0x20
  · rw [if_pos control]
    exact readStringFrom_escape (readEscape_control control s) read
  · rw [if_neg control]
    exact readStringFrom_plain quote slash control read s

theorem readStringFrom_escaped (cs read rest : List Char) :
    readStringFrom read (cs.flatMap escapeChar ++ '"' :: rest) =
      .ok (read.reverse ++ cs, rest) := by
  induction cs generalizing read with
  | nil => rw [List.flatMap_nil, List.nil_append, readStringFrom, if_pos rfl, List.append_nil]
  | cons c cs ih =>
    rw [List.flatMap_cons, List.append_assoc, readStringFrom_escapeChar, ih]
    rw [List.reverse_cons, List.append_assoc]
    rfl

theorem renderString_append (s : String) (rest : List Char) :
    renderString s ++ rest = '"' :: (s.toList.flatMap escapeChar ++ '"' :: rest) := by
  simp [renderString]

theorem readString_escaped (s : String) (rest : List Char) :
    readString (s.toList.flatMap escapeChar ++ '"' :: rest) = .ok (s, rest) := by
  unfold readString
  rw [readStringFrom_escaped]
  change Except.ok (String.ofList s.toList, rest) = _
  rw [String.ofList_toList]

theorem readText_renderString (expected s : String) (rest : List Char) :
    readText expected (renderString s ++ rest) = .ok (s, rest) := by
  rw [renderString_append, readText, atValue, skipSpace_cons (by decide)]
  simp only [if_true]
  exact readString_escaped s rest

theorem reads_text (expected s : String) : Reads (readText expected) (renderString s) s :=
  fun rest _ => readText_renderString expected s rest

theorem hexDigit_printed : ∀ n < 16, 0x20 ≤ (hexDigit n).toNat := by decide

theorem isPrinted_escapeChar (c : Char) : IsPrinted (escapeChar c) := by
  unfold escapeChar
  repeat' split
  all_goals try exact isPrinted_of_all (by decide)
  · next control =>
    have high := hexDigit_printed (c.toNat / 16) (by omega)
    have low := hexDigit_printed (c.toNat % 16) (by omega)
    have start : IsPrinted ['\\', 'u', '0', '0'] := isPrinted_of_all (by decide)
    exact start.append (.cons high (.cons low (fun _ h => by cases h)))
  · next control =>
    exact .cons (Nat.le_of_not_lt control) (fun _ h => by cases h)

theorem isPrinted_renderString (s : String) : IsPrinted (renderString s) := by
  have quote : 0x20 ≤ '"'.toNat := by decide
  refine .append (.cons quote ?_) (.cons quote fun _ h => by cases h)
  intro c hc
  obtain ⟨d, -, hd⟩ := List.mem_flatMap.mp hc
  exact isPrinted_escapeChar d c hd

theorem isDigit_of_mem_toDigits {n : Nat} {c : Char} (h : c ∈ Nat.toDigits 10 n) :
    isDigit c = true := by
  have digit := Nat.isDigit_of_mem_toDigits (by decide) (by decide) h
  rw [Char.isDigit, Bool.and_eq_true, decide_eq_true_eq, decide_eq_true_eq] at digit
  rw [isDigit, Bool.and_eq_true, decide_eq_true_eq, decide_eq_true_eq]
  exact digit

theorem ne_of_isDigit {c d : Char} (digit : isDigit c = true) (other : isDigit d = false) :
    c ≠ d := by
  rintro rfl
  rw [digit] at other
  cases other

theorem isSpace_of_isDigit {c : Char} (h : isDigit c = true) : isSpace c = false := by
  cases hs : isSpace c with
  | false => rfl
  | true =>
    simp only [isSpace, Bool.or_eq_true, beq_iff_eq] at hs
    rcases hs with ((rfl | rfl) | rfl) | rfl <;> cases h

def Breaks (rest : List Char) : Prop := ∀ c ∈ rest.head?, isDigit c = false

theorem Ends.breaks {rest : List Char} (ends : Ends rest) : Breaks rest := by
  cases ends <;> simp [Breaks, isDigit]

theorem takeDigits_append {ds rest : List Char} (digits : ∀ d ∈ ds, isDigit d = true)
    (breaks : Breaks rest) : (ds ++ rest).takeWhile isDigit = ds := by
  rw [List.takeWhile_append_of_pos digits]
  cases rest with
  | nil => simp
  | cons c rest => simp [breaks c rfl]

theorem dropDigits_append {ds rest : List Char} (digits : ∀ d ∈ ds, isDigit d = true)
    (breaks : Breaks rest) : (ds ++ rest).dropWhile isDigit = rest := by
  rw [List.dropWhile_append_of_pos digits]
  cases rest with
  | nil => rfl
  | cons c rest => simp [breaks c rfl]

theorem gatherDigits_of_le {ds : List Char} {n : Nat}
    (h : Nat.ofDigitChars 10 ds n ≤ Text.max64) :
    gatherDigits n ds = (Nat.ofDigitChars 10 ds n, 0) := by
  induction ds generalizing n with
  | nil => rfl
  | cons d ds ih =>
    rw [Nat.ofDigitChars_cons, Nat.mul_comm] at h ⊢
    have fits : n * 10 + digitValue d ≤ Text.max64 := by
      refine Nat.le_trans ?_ h
      rw [Nat.ofDigitChars_eq_ofDigitChars_zero]
      exact Nat.le_trans (Nat.le_mul_of_pos_left _ (Nat.pow_pos (by decide)))
        (Nat.le_add_right _ _)
    rw [gatherDigits]
    simp only [Nat.not_lt_of_le fits, if_false]
    exact ih h

theorem readNumber_toDigits {n : Nat} (h : n ≤ Text.max64) {rest : List Char} (ends : Ends rest)
    (minus : Bool) :
    readNumber minus (Nat.toDigits 10 n ++ rest) =
      if ¬ minus then .ok (.natural n, rest)
      else if 0 < n ∧ n ≤ Text.maxSigned64 + 1 then .ok (.negative n, rest)
      else makeReal minus n 0 rest := by
  have gathered : gatherDigits 0 (Nat.toDigits 10 n) = (n, 0) := by
    rw [gatherDigits_of_le] <;> rw [Nat.ofDigitChars_ten_toDigits]
    exact h
  have digits : ∀ d ∈ Nat.toDigits 10 n, isDigit d = true := fun d => isDigit_of_mem_toDigits
  have taken := takeDigits_append digits ends.breaks
  have dropped := dropDigits_append digits ends.breaks
  cases hd : Nat.toDigits 10 n with
  | nil => exact absurd hd Nat.toDigits_ne_nil
  | cons d ds =>
    rw [hd] at gathered taken dropped digits
    have hdigit := digits d List.mem_cons_self
    rw [List.cons_append] at taken dropped ⊢
    rw [readNumber]
    by_cases zero : d = '0'
    · subst zero
      obtain ⟨rfl, rfl⟩ := Text.toDigits_head_zero hd
      cases ends <;> cases minus <;> rfl
    · simp only [hdigit, zero, taken, dropped]
      cases ends <;> cases minus <;> simp [gathered]

def IsInt64 (n : Int) : Prop := -Text.maxSigned64 - 1 ≤ n ∧ n ≤ Text.maxSigned64

instance (n : Int) : Decidable (IsInt64 n) := inferInstanceAs (Decidable (_ ∧ _))

theorem reads_int {n : Int} (h : IsInt64 n) : Reads readInt64 (Value.int n).render n := by
  obtain ⟨least, most⟩ := h
  unfold Text.maxSigned64 at least most
  intro rest ends
  have small : n.natAbs ≤ Text.max64 := by
    unfold Text.max64
    omega
  by_cases minus : n < 0
  · have fits : 0 < n.natAbs ∧ n.natAbs ≤ Text.maxSigned64 + 1 := by
      unfold Text.maxSigned64
      omega
    have same : -(n.natAbs : Int) = n := by omega
    rw [Value.int, if_pos minus]
    change readInt64 ('-' :: (Nat.toDigits 10 n.natAbs ++ rest)) = _
    rw [readInt64, atValue, skipSpace_cons (by decide)]
    simp only [if_true, readNumber_toDigits small ends, not_true, if_false, if_pos fits]
    change Except.ok (-(n.natAbs : Int), rest) = _
    rw [same]
  · have fits : n.toNat ≤ Text.maxSigned64 := by
      unfold Text.maxSigned64
      omega
    have same : (n.toNat : Int) = n := by omega
    have number := readNumber_toDigits (n := n.toNat) (by unfold Text.max64; omega) ends false
    rw [Value.int, if_neg minus]
    change readInt64 (Nat.toDigits 10 n.toNat ++ rest) = _
    cases hd : Nat.toDigits 10 n.toNat with
    | nil => exact absurd hd Nat.toDigits_ne_nil
    | cons d ds =>
      rw [hd] at number
      have digit : isDigit d = true := isDigit_of_mem_toDigits (hd ▸ List.mem_cons_self)
      have space := isSpace_of_isDigit digit
      have dash : d ≠ '-' := ne_of_isDigit digit rfl
      rw [List.cons_append] at number ⊢
      rw [readInt64, atValue, skipSpace_cons space]
      simp only [dash, digit, if_true, if_false, number]
      change (if n.toNat ≤ Text.maxSigned64 then Except.ok ((n.toNat : Int), rest) else _) = _
      rw [if_pos fits, same]

theorem isPrinted_toDigits (n : Nat) : IsPrinted (Nat.toDigits 10 n) := by
  intro c hc
  have digit := isDigit_of_mem_toDigits hc
  rw [isDigit, Bool.and_eq_true, decide_eq_true_eq] at digit
  exact Nat.le_trans (by decide) digit.1

theorem isPrinted_int (n : Int) : IsPrinted (Value.int n).render := by
  unfold Value.int
  split
  · exact .cons (by decide) (isPrinted_toDigits _)
  · exact isPrinted_toDigits _

inductive Shows : List Char → Prop
  | intro (c : Char) (s : List Char) (space : isSpace c = false) (null : c ≠ 'n')
    (bracket : c ≠ ']') : Shows (c :: s)

theorem Shows.length_pos {text : List Char} (h : Shows text) : 0 < text.length := by
  cases h
  exact Nat.succ_pos _

theorem shows_renderString (s : String) : Shows (renderString s) :=
  .intro _ _ (by decide) (by decide) (by decide)

theorem shows_int (n : Int) : Shows (Value.int n).render := by
  unfold Value.int
  split
  · exact .intro _ _ (by decide) (by decide) (by decide)
  · change Shows (Nat.toDigits 10 n.toNat)
    cases hd : Nat.toDigits 10 n.toNat with
    | nil => exact absurd hd Nat.toDigits_ne_nil
    | cons d ds =>
      have digit : isDigit d = true := isDigit_of_mem_toDigits (hd ▸ List.mem_cons_self)
      refine .intro d ds (isSpace_of_isDigit digit) ?_ ?_
      · rintro rfl
        cases digit
      · rintro rfl
        cases digit

theorem Reads.optional {read : Reader α} {text : List Char} {a : α} (h : Reads read text a)
    (shows : Shows text) : Reads (readOptional read) text (some a) := by
  intro rest ends
  have step := h rest ends
  obtain ⟨c, s, space, null, -⟩ := shows
  rw [List.cons_append] at step ⊢
  unfold readOptional
  rw [skipSpace_cons space]
  split
  · next t eq =>
    cases eq
    exact absurd rfl null
  · rw [step]
    rfl

end EventRelay.Json
