import EventRelay.Toml.Document
import EventRelay.Toml.Writer
import Mathlib.Tactic.SplitIfs

namespace EventRelay.Toml

variable {long : Bool} {quote c e : Char} {limit run : Nat} {p s t rest : List Char}

/-- A way to write one character between quotes. Escapes are for double quotes only. -/
inductive Spells (long : Bool) (quote : Char) : List Char → Char → Prop
  | plain {c : Char} (text : isText c) (other : c ≠ quote) (solid : quote = '"' → c ≠ '\\') :
    Spells long quote [c] c
  | newline (lines : long = true) (other : '\n' ≠ quote) : Spells long quote ['\n'] '\n'
  | escape {e : List Char} {c : Char} (double : quote = '"')
    (reads : ∀ rest, readEscape (e ++ rest) = some (c, rest))
    (solid : ∀ rest, newline? (skipSpace (e ++ rest)) = none) : Spells long quote ('\\' :: e) c

/--
A way to write characters between quotes, after `run` quotes of which at most `limit` may stand next
to each other.
-/
inductive Body (long : Bool) (quote : Char) (limit : Nat) : Nat → List Char → List Char → Prop
  | done {run : Nat} : Body long quote limit run [] []
  | quote {run : Nat} {s t : List Char} (room : run < limit)
    (rest : Body long quote limit (run + 1) s t) :
    Body long quote limit run (quote :: s) (quote :: t)
  | spelled {run : Nat} {p s t : List Char} {c : Char} (first : Spells long quote p c)
    (rest : Body long quote limit 0 s t) : Body long quote limit run (p ++ s) (c :: t)

theorem isText_of_not_isControl (solid : isControl c = false) (line : c ≠ '\n') :
    isText c = true := by
  simp only [isControl, isText, Bool.or_eq_false_iff, Bool.and_eq_false_iff] at solid ⊢
  simp only [bne_eq_false_iff_eq, decide_eq_false_iff_not, beq_eq_false_iff_ne, line] at solid
  simp only [Bool.or_eq_true, Bool.and_eq_true, beq_iff_eq, bne_iff_ne, decide_eq_true_eq]
  rcases solid with ⟨(high | tab) | line, last⟩
  · exact .inr ⟨Nat.not_lt.mp high, last⟩
  · exact .inl tab
  · exact absurd line id

theorem spells_code (control : isControl c = true) :
    Spells long '"' ['\\', 'u', '0', '0', upperHex (c.toNat / 16), upperHex (c.toNat % 16)] c := by
  have all : ∀ n < 128, isControl (Char.ofNat n) = true →
      let ds := ['0', '0', upperHex (n / 16), upperHex (n % 16)]
      ds.all isHexDigit = true ∧ ds.foldl (fun n d => n * 16 + digitValue d) 0 = n := by
    decide +kernel
  have small : c.toNat < 128 := by
    simp only [isControl, Bool.or_eq_true, Bool.and_eq_true, decide_eq_true_eq, beq_iff_eq]
      at control
    omega
  obtain ⟨digits, value⟩ := all c.toNat small (by rwa [Char.ofNat_toNat])
  refine .escape rfl (fun rest => ?_) fun rest => rfl
  change readCode 4 (_ :: _ :: _ :: _ :: rest) = _
  rw [readCode]
  simp only [List.take_succ_cons, List.take_zero, List.drop_succ_cons, List.drop_zero]
  rw [if_pos ⟨rfl, digits⟩, value, Char.ofNat_toNat]
  exact if_pos c.valid

theorem spells_of_escape? (h : escape? long c = some p) : Spells long '"' p c := by
  have named {e : List Char} (reads : ∀ rest, readEscape (e ++ rest) = some (c, rest))
      (solid : ∀ rest, newline? (skipSpace (e ++ rest)) = none) (same : some ('\\' :: e) = some p) :
      Spells long '"' p c := by
    cases same
    exact .escape rfl reads solid
  rw [escape?] at h
  split_ifs at h with back tab line lines form ret slash control
  · exact named (fun _ => back ▸ rfl) (fun _ => rfl) h
  · exact named (fun _ => tab ▸ rfl) (fun _ => rfl) h
  · exact named (fun _ => line ▸ rfl) (fun _ => rfl) h
  · exact named (fun _ => form ▸ rfl) (fun _ => rfl) h
  · exact named (fun _ => ret ▸ rfl) (fun _ => rfl) h
  · exact named (fun _ => by rw [slash]; rfl) (fun _ => rfl) h
  · cases h
    exact spells_code control

theorem spells_of_not_escape? (h : escape? long c = none) (other : c ≠ '"') :
    Spells long '"' [c] c := by
  rw [escape?] at h
  split_ifs at h with back tab line lines form ret slash control
  · exact line ▸ .newline lines (by decide)
  · exact .plain (isText_of_not_isControl (Bool.eq_false_iff.mpr control) line) other fun _ => slash

theorem body_escapeFrom (cs : List Char) (run : Nat) :
    Body long '"' limit run (escapeFrom long limit run cs) cs := by
  -- an escape ends a run of quotes, so the run is generalized and starts anew behind it
  induction cs generalizing run with
  | nil => exact .done
  | cons c cs ih =>
    rw [escapeFrom]
    split
    · next same =>
      subst same
      split
      · next room => exact .quote room (ih _)
      · exact .spelled (p := ['\\', '"']) (.escape rfl (fun _ => rfl) fun _ => rfl) (ih 0)
    · next other =>
      split
      · next escaped h => exact .spelled (spells_of_escape? h) (ih 0)
      · next h => exact .spelled (spells_of_not_escape? h other) (ih 0)

def longestFrom (quote : Char) (best run : Nat) (s : List Char) : Nat :=
  (s.foldl (fun (best, current) c =>
    let current := if c = quote then current + 1 else 0
    (max best current, current)) (best, run)).1

theorem longestFrom_cons (quote : Char) (best run : Nat) (c : Char) (s : List Char) :
    longestFrom quote best run (c :: s) =
      longestFrom quote (max best (if c = quote then run + 1 else 0))
        (if c = quote then run + 1 else 0) s := rfl

theorem le_longestFrom (quote : Char) (best run : Nat) (s : List Char) :
    best ≤ longestFrom quote best run s := by
  induction s generalizing best run with
  | nil => exact Nat.le_refl _
  | cons c s ih =>
    rw [longestFrom_cons]
    exact Nat.le_trans (Nat.le_max_left _ _) (ih _ _)

theorem body_self {cs : List Char} {best run : Nat} (solid : ∀ c ∈ cs, isControl c = false)
    (line : long = false → '\n' ∉ cs) (runs : longestFrom '\x27' best run cs ≤ limit) :
    Body long '\x27' limit run cs cs := by
  induction cs generalizing best run with
  | nil => exact .done
  | cons c cs ih =>
    obtain ⟨first, below⟩ := List.forall_mem_cons.mp solid
    have line' : long = false → '\n' ∉ cs := fun short there =>
      line short (List.mem_cons_of_mem _ there)
    rw [longestFrom_cons] at runs
    by_cases same : c = '\x27'
    · subst same
      rw [if_pos rfl] at runs
      have room := Nat.le_trans (Nat.le_max_right best (run + 1))
        (Nat.le_trans (le_longestFrom _ _ _ _) runs)
      exact .quote room (ih below line' runs)
    · rw [if_neg same] at runs
      refine .spelled (p := [c]) ?_ (ih below line' runs)
      by_cases feed : c = '\n'
      · subst feed
        cases long with
        | true => exact .newline rfl (by decide)
        | false => exact absurd List.mem_cons_self (line rfl)
      · exact .plain (isText_of_not_isControl first feed) same nofun

theorem newline?_of_isText (text : isText c = true) (s : List Char) : newline? (c :: s) = none := by
  have line : c ≠ '\n' := by
    rintro rfl
    cases text
  have ret : c ≠ '\r' := by
    rintro rfl
    cases text
  simp [newline?, line, ret]

theorem Spells.ne_quote (first : Spells long quote p c) : ∃ d q, p = d :: q ∧ d ≠ quote := by
  cases first with
  | plain text other => exact ⟨_, _, rfl, other⟩
  | newline _ other => exact ⟨_, _, rfl, other⟩
  | escape double =>
    subst double
    exact ⟨_, _, rfl, by decide⟩

theorem Spells.length_pos (first : Spells long quote p c) : 0 < p.length := by
  obtain ⟨_, _, rfl, -⟩ := first.ne_quote
  exact Nat.succ_pos _

theorem readBasic_spelled (first : Spells false '"' p c) (read s : List Char) (fuel : Nat) :
    readBasic read (fuel + 1) (p ++ s) = readBasic (c :: read) fuel s := by
  cases first with
  | plain text other solid => simp [readBasic, text, other, solid]
  | newline lines => cases lines
  | escape double reads solid => simp [readBasic, reads]

theorem readBasic_body (h : Body false '"' 0 run s t) (read rest : List Char) {fuel : Nat}
    (enough : s.length < fuel) :
    readBasic read fuel (s ++ '"' :: rest) = some (read.reverse ++ t, rest) := by
  induction h generalizing read fuel with
  | done =>
    obtain ⟨fuel, rfl⟩ := Nat.exists_eq_add_of_lt enough
    simp [readBasic]
  | quote room => exact absurd room (Nat.not_lt_zero _)
  | spelled first _ ih =>
    have := first.length_pos
    rw [List.length_append] at enough
    obtain ⟨fuel, rfl⟩ := Nat.exists_eq_add_of_lt enough
    rw [List.append_assoc, readBasic_spelled first, ih _ (by omega)]
    simp

theorem plain_of_body (h : Body false '\x27' 0 run s t) :
    s = t ∧ ∀ c ∈ s, (isText c && c != '\x27') = true := by
  induction h with
  | done => exact ⟨rfl, nofun⟩
  | quote room => exact absurd room (Nat.not_lt_zero _)
  | spelled first _ ih =>
    obtain ⟨rfl, plain⟩ := ih
    cases first with
    | plain text other =>
      exact ⟨rfl, List.forall_mem_cons.mpr ⟨by simp [text, other], plain⟩⟩
    | newline lines => cases lines
    | escape double => cases double

theorem readLiteral_body (h : Body false '\x27' 0 run s t) (rest : List Char) :
    readLiteral (s ++ '\x27' :: rest) = some (t, rest) := by
  obtain ⟨rfl, plain⟩ := plain_of_body h
  rw [readLiteral, List.takeWhile_append_of_pos plain]
  simp

theorem readLong_spelled (first : Spells true quote p c) (read s : List Char) (fuel : Nat) :
    readLong quote read (fuel + 1) (p ++ s) = readLong quote (c :: read) fuel s := by
  cases first with
  | plain text other solid =>
    have escape : ¬(c = '\\' ∧ quote = '"') := fun both => solid both.2 both.1
    simp [readLong, text, other, escape, newline?_of_isText]
  | newline _ other => simp [readLong, other, newline?]
  | escape double reads solid =>
    subst double
    simp [readLong, reads, solid]

theorem countQuotes_replicate (n : Nat) (other : c ≠ quote) (s : List Char) :
    countQuotes quote (List.replicate n quote ++ c :: s) = n := by
  simp [countQuotes, other]

theorem readLong_run (n : Nat) (other : c ≠ quote) (read s : List Char) (fuel : Nat) :
    readLong quote read (fuel + 1) (List.replicate (n + 1) quote ++ c :: s) =
      if n + 1 < 3 then readLong quote (List.replicate (n + 1) quote ++ read) fuel (c :: s)
      else some ((List.replicate (min (n + 1 - 3) 2) quote ++ read).reverse,
        (List.replicate (n + 1) quote ++ c :: s).drop (min (n + 1 - 3) 2 + 3)) := by
  have count := countQuotes_replicate (n + 1) other s
  have rest : (List.replicate (n + 1) quote ++ c :: s).drop (n + 1) = c :: s :=
    List.drop_left' List.length_replicate
  rw [List.replicate_succ, List.cons_append] at count rest
  rw [List.replicate_succ, List.cons_append, readLong, if_pos rfl, count]
  dsimp only
  rw [rest]
  rfl

theorem readLong_close {n : Nat} (few : n ≤ 2) (other : c ≠ quote) (read s : List Char)
    (fuel : Nat) : readLong quote read (fuel + 1) (List.replicate (n + 3) quote ++ c :: s) =
      some (read.reverse ++ List.replicate n quote, c :: s) := by
  have extra : min (n + 2 + 1 - 3) 2 = n := by omega
  rw [readLong_run (n + 2) other, if_neg (by omega), extra,
    List.drop_left' List.length_replicate, List.reverse_append, List.reverse_replicate]

theorem readLong_body (h : Body true quote 2 run s t) (few : run ≤ 2) (ends : e ≠ quote)
    (read rest : List Char) {fuel : Nat} (enough : run + s.length < fuel) :
    readLong quote read fuel
        (List.replicate run quote ++ (s ++ (List.replicate 3 quote ++ e :: rest))) =
      some (read.reverse ++ (List.replicate run quote ++ t), e :: rest) := by
  -- quotes are read all at once, so those before `s` are part of the text that is read
  induction h generalizing read fuel with
  | @done run =>
    obtain ⟨fuel, rfl⟩ := Nat.exists_eq_add_of_lt enough
    rw [List.nil_append, ← List.append_assoc, List.replicate_append_replicate,
      readLong_close few ends, List.append_nil]
  | @quote run s t room _ ih =>
    rw [List.length_cons] at enough
    have all := ih room read (show run + 1 + s.length < fuel by omega)
    rw [List.replicate_succ', List.append_assoc, List.append_assoc] at all
    exact all
  | @spelled run p s t c first _ ih =>
    have := first.length_pos
    rw [List.length_append] at enough
    have piece (read : List Char) {fuel : Nat} (enough : s.length < fuel) :
        readLong quote read (fuel + 1) (p ++ s ++ (List.replicate 3 quote ++ e :: rest)) =
          some (read.reverse ++ c :: t, e :: rest) := by
      rw [List.append_assoc, readLong_spelled first]
      simpa using ih (Nat.zero_le 2) (c :: read) (show 0 + s.length < fuel by omega)
    obtain ⟨fuel, rfl⟩ : ∃ n, fuel = n + 1 := ⟨fuel - 1, by omega⟩
    cases run with
    | zero => exact piece read (by omega)
    | succ run =>
      obtain ⟨d, q, rfl, other⟩ := first.ne_quote
      obtain ⟨fuel, rfl⟩ : ∃ n, fuel = n + 1 := ⟨fuel - 1, by omega⟩
      rw [List.cons_append, List.cons_append, readLong_run run other, if_pos (by omega)]
      refine (piece _ (by omega)).trans ?_
      simp

theorem Body.head?_ne (h : Body long quote 0 run s t) : s.head? ≠ some quote := by
  cases h with
  | done => nofun
  | quote room => exact absurd room (Nat.not_lt_zero _)
  | spelled first =>
    obtain ⟨d, q, rfl, other⟩ := first.ne_quote
    simpa using other

theorem single_of_choose (cs : List Char) (h : (Style.choose cs).escapes = false) :
    (∀ c ∈ cs, isControl c = false) ∧
      (Style.choose cs = .literal ∧ longestRun '\x27' cs ≤ 0 ∧ '\n' ∉ cs ∨
        Style.choose cs = .longLiteral ∧ longestRun '\x27' cs ≤ 2) := by
  generalize chosen : Style.choose cs = style at h
  rw [Style.choose] at chosen
  split_ifs at chosen with plain literal long longLiteral newline <;> subst chosen
  · cases h
  · simpa [Shape.of, and_assoc] using literal
  · cases h
  · simpa [Shape.of] using longLiteral
  · cases h
  · cases h

theorem short_quotes (h : Body long quote 0 run s t) (ends : e ≠ quote) (rest u : List Char) :
    s ++ quote :: e :: rest ≠ quote :: quote :: u := by
  have start := h.head?_ne
  cases s with
  | nil => simpa using fun same => absurd same ends
  | cons d s =>
    intro same
    exact start (congrArg some (List.cons.inj same).1)

theorem readString_basic (h : Body false '"' 0 0 s t) (ends : e ≠ '"') (rest : List Char) :
    readString ('"' :: (s ++ '"' :: e :: rest)) = some (String.ofList t, e :: rest) := by
  have body := readBasic_body h [] (e :: rest)
    (show s.length < ('"' :: (s ++ '"' :: e :: rest)).length + 1 by simp; omega)
  rw [readString, body]
  · rfl
  · exact short_quotes h ends rest

theorem readString_literal (h : Body false '\x27' 0 0 s t) (ends : e ≠ '\x27') (rest : List Char) :
    readString ('\x27' :: (s ++ '\x27' :: e :: rest)) = some (String.ofList t, e :: rest) := by
  rw [readString, readLiteral_body h]
  · rfl
  · exact short_quotes h ends rest

theorem newline?_body (h : Body long quote limit run s t) (text : isText quote = true)
    (line : '\n' ∉ t) (u : List Char) : newline? (s ++ quote :: u) = none := by
  cases h with
  | done => exact newline?_of_isText text u
  | quote => exact newline?_of_isText text _
  | spelled first =>
    cases first with
    | plain other => exact newline?_of_isText other _
    | newline => exact absurd List.mem_cons_self line
    | escape => rfl

theorem dropNewline_body (h : Body long quote limit run s t) (text : isText quote = true)
    (u : List Char) :
    dropNewline ((if '\n' ∈ t then ['\n'] else []) ++ (s ++ quote :: u)) = s ++ quote :: u := by
  split
  · rfl
  · next line => rw [dropNewline, List.nil_append, newline?_body h text line, Option.getD_none]

theorem readString_long (known : quote = '"' ∨ quote = '\x27') (h : Body true quote 2 0 s t)
    (ends : e ≠ quote) (rest : List Char) :
    readString (List.replicate 3 quote ++ ((if '\n' ∈ t then ['\n'] else []) ++
      (s ++ (List.replicate 3 quote ++ e :: rest)))) = some (String.ofList t, e :: rest) := by
  have text : isText quote = true := by
    rcases known with rfl | rfl <;> rfl
  have body {fuel : Nat} (enough : s.length < fuel) :=
    readLong_body h (Nat.zero_le 2) ends [] rest (show 0 + s.length < fuel by omega)
  have drop := dropNewline_body h text (quote :: quote :: e :: rest)
  rcases known with rfl | rfl
  all_goals
    change readString (_ :: _ :: _ :: (_ ++ (s ++ _ :: _ :: _ :: e :: rest))) = _
    rw [readString, drop]
    exact congrArg (Option.bind · _) (body (by simp; omega))

theorem readString_renderString (s : String) (single : e ≠ '\x27') (double : e ≠ '"')
    (rest : List Char) : readString (renderString s ++ e :: rest) = some (s, e :: rest) := by
  cases style : Style.choose s.toList with
  | basic =>
    simpa [renderString, style, Style.escapes, Style.isLong, Style.quotes] using
      readString_basic (body_escapeFrom s.toList 0) double rest
  | literal =>
    obtain ⟨solid, ⟨-, runs, line⟩ | ⟨other, -⟩⟩ := single_of_choose s.toList (by rw [style]; rfl)
    · simpa [renderString, style, Style.escapes, Style.isLong, Style.quotes] using
        readString_literal (body_self solid (fun _ => line) runs) single rest
    · rw [style] at other
      cases other
  | longBasic =>
    simpa [renderString, style, Style.escapes, Style.isLong, Style.quotes] using
      readString_long (.inl rfl) (body_escapeFrom s.toList 0) double rest
  | longLiteral =>
    obtain ⟨solid, ⟨other, -⟩ | ⟨-, runs⟩⟩ := single_of_choose s.toList (by rw [style]; rfl)
    · rw [style] at other
      cases other
    · simpa [renderString, style, Style.escapes, Style.isLong, Style.quotes] using
        readString_long (.inr rfl) (body_self solid nofun runs) single rest

end EventRelay.Toml
