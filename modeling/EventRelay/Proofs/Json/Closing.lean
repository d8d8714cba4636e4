import EventRelay.Proofs.Json.Brackets

namespace EventRelay.Json

variable {c : Char} {s t : List Char}

theorem keeps_skipExponent : Keeps (beyond .plain) (beyond .plain) skipExponent := by
  intro s rest h
  unfold skipExponent at h
  rw [← beyond_splitSign]
  generalize (splitSign s).2 = t at h ⊢
  cases t with
  | nil => cases h
  | cons c t =>
    dsimp only at h
    split at h
    · next digit =>
      cases h
      rw [beyond_dropDigits, beyond_unmarked (not_isMark_of_isDigit digit)]
    · cases h

theorem keeps_skipFraction : Keeps (beyond .plain) (beyond .plain) skipFraction := by
  intro s rest h
  unfold skipFraction at h
  dsimp only at h
  rw [← beyond_dropDigits]
  split at h
  · cases h
  · split at h
    · next t after =>
      rw [after, beyond_unmarked rfl]
      exact keeps_skipExponent h
    · next t after =>
      rw [after, beyond_unmarked rfl]
      exact keeps_skipExponent h
    · exact keeps_ok h

theorem keeps_skipNumber : Keeps (beyond .plain) (beyond .plain) skipNumber := by
  intro s rest h
  unfold skipNumber at h
  split at h
  · cases h
  · next c s =>
    split at h
    · cases h
    · next digit =>
      rw [beyond_unmarked (not_isMark_of_isDigit (Decidable.not_not.mp digit))]
      have whole : beyond .plain (if c = '0' then s else s.dropWhile isDigit) = beyond .plain s := by
        split
        · rfl
        · exact beyond_dropDigits s
      rw [← whole]
      dsimp only at h
      generalize (if c = '0' then s else s.dropWhile isDigit) = after at h ⊢
      split at h
      · cases h
      · split at h
        · rw [beyond_unmarked rfl]
          exact keeps_skipFraction h
        · rw [beyond_unmarked rfl]
          exact keeps_skipExponent h
        · rw [beyond_unmarked rfl]
          exact keeps_skipExponent h
        · exact keeps_ok h

theorem keeps_wordAt {w : Char} {word : List Char} (same : c = w)
    (h : ∀ v ∈ w :: word, isMark v = false) :
    Keeps (fun s => beyond .plain (c :: s)) (beyond .plain) (readWord word) :=
  (keeps_word fun v hv => h v (List.mem_cons_of_mem w hv)).unmarked (same ▸ h w List.mem_cons_self)

theorem keeps_skipScalar (c : Char) :
    Keeps (fun s => beyond .plain (c :: s)) (beyond .plain) (skipScalar c) := by
  unfold skipScalar
  refine .ite (fun same => keeps_wordAt same (unmarked_of_all rfl)) fun _ => ?_
  refine .ite (fun same => keeps_wordAt same (unmarked_of_all rfl)) fun _ => ?_
  refine .ite (fun same => keeps_wordAt same (unmarked_of_all rfl)) fun _ => ?_
  refine .ite (fun quote => by rw [quote]; exact keeps_skipString) fun _ => ?_
  refine .ite (fun sign => keeps_skipNumber.unmarked (by rw [sign]; rfl)) fun _ => ?_
  exact .ite (fun _ _ _ h => keeps_skipNumber h) fun _ => keeps_error _

def within (n : Nat) (s : List Char) (depth : Nat) : Option (List Char) :=
  beyond .plain s (depth + n)

theorem within_congr (h : beyond .plain s = beyond .plain t) (n : Nat) :
    within n s = within n t := by
  funext depth
  rw [within, h, within]

theorem within_skipSpace (h : skipSpace s = c :: t) (n : Nat) : within n s = within n (c :: t) :=
  within_congr (by rw [← beyond_skipSpace, h]) n

theorem within_opening (h : c = '[' ∨ c = '{') (n : Nat) (s : List Char) :
    within n (c :: s) = within (n + 1) s := by
  funext depth
  rcases h with rfl | rfl <;> rfl

theorem within_closing (b : Bracket) (n : Nat) (s : List Char) :
    within (n + 1) (b.closing :: s) = within n s := by
  funext depth
  cases b <;> simp [within, beyond, Bracket.closing, ← Nat.add_assoc]

def withinStep : Phase × List Bracket × List Char → Nat → Option (List Char)
  | (_, stack, rest) => within stack.length rest

theorem keeps_skipToken (stack : List Bracket) :
    Keeps (within stack.length) withinStep (skipToken stack) := by
  intro s a h
  unfold skipToken at h
  split at h
  · cases h
  · next c t first =>
    rw [within_skipSpace first]
    split at h
    · next list =>
      cases h
      exact within_opening (.inl list) _ t
    · split at h
      · next object =>
        cases h
        exact within_opening (.inr object) _ t
      · obtain ⟨rest, scalar, rfl⟩ := map_eq_ok.mp h
        exact within_congr (keeps_skipScalar c scalar) _

theorem keeps_colon (e : Char → List Char → Fault) :
    Keeps (beyond .plain) (beyond .plain) fun s => match skipSpace s with
      | [] => .error (.next .endInObject [])
      | c :: t => if c = ':' then .ok t else .error (e c t) :=
  .first (fun c _ => .ite (fun colon => keeps_ok.unmarked (by rw [colon]; rfl))
    fun _ => keeps_error _) _

theorem keeps_skipKey : Keeps (beyond .plain) (beyond .plain) skipKey := by
  unfold skipKey
  refine .first (fun c _ => .ite (fun _ => keeps_error _) fun quote => ?_) _
  rw [Decidable.not_not.mp quote]
  exact keeps_skipString.bind (keeps_colon fun c t => .next .expectedColon (c :: t))

theorem keeps_skipInside (afterValue : Bool) (b : Bracket) (stack : List Bracket) :
    Keeps (within (stack.length + 1)) withinStep (skipInside afterValue b stack) := by
  intro s a h
  unfold skipInside at h
  split at h
  · cases h
  · next c t first =>
    rw [within_skipSpace first]
    split at h
    · next closing =>
      cases h
      rw [closing]
      exact within_closing b _ t
    · split at h
      · cases h
      · next separated =>
        have inner : beyond .plain (if afterValue = true then t else c :: t) =
            beyond .plain (c :: t) := by
          split
          · next behind =>
            have comma : c = ',' := by simpa [behind] using separated
            rw [comma, beyond_unmarked rfl]
          · rfl
        rw [← within_congr inner]
        dsimp only at h
        generalize (if afterValue = true then t else c :: t) = inner at h
        cases b with
        | list => exact keeps_skipToken (.list :: stack) h
        | object =>
          obtain ⟨u, key, h⟩ := bind_eq_ok.mp h
          rw [within_congr (keeps_skipKey key)]
          exact keeps_skipToken (.object :: stack) h

theorem keeps_skipStep (phase : Phase) (stack : List Bracket) :
    Keeps (within stack.length) withinStep (skipStep phase stack) := by
  cases phase with
  | value => exact keeps_skipToken stack
  | opened =>
    cases stack with
    | nil => exact keeps_skipToken []
    | cons b stack => exact keeps_skipInside false b stack
  | closedValue =>
    cases stack with
    | nil => exact keeps_skipToken []
    | cons b stack => exact keeps_skipInside true b stack

theorem keeps_skipAll (phase : Phase) (stack : List Bracket) :
    Keeps (within stack.length) (beyond .plain) (skipAll phase stack) := by
  intro s rest h
  fun_induction skipAll phase stack s with
  | case1 phase stack s ended =>
    cases h
    rw [ended.2]
    rfl
  | case2 => cases h
  | case3 phase stack s open' phase' stack' t step shorter ih =>
    exact (keeps_skipStep phase stack step).trans (ih h)

theorem keeps_skipValue : Keeps (beyond .plain) (beyond .plain) skipValue := keeps_skipAll .value []

variable {read : Reader α}

theorem Balances.atValue {read : Char → Reader α}
    (h : ∀ c, Keeps (fun s => beyond .plain (c :: s)) (fun (_, rest) => beyond .plain rest) (read c)) :
    Balances fun s => atValue s read := Keeps.first (fun c _ => h c) _

theorem balances_text (expected : String) : Balances (readText expected) :=
  .atValue fun _ => .ite (fun quote => by rw [quote]; exact keeps_string) fun _ => keeps_error _

theorem balances_toInt64 (n : Numeral) : Balances n.toInt64 := by
  unfold Numeral.toInt64
  cases n with
  | natural n => exact .ite (fun _ => balances_done _) fun _ => keeps_error _
  | negative n => exact balances_done _
  | real minus x => exact keeps_error _

theorem balances_signed (minus : Bool) :
    Balances (fun s => do
      let (n, s) ← readNumber minus s
      n.toInt64 s) :=
  balances_number.then fun n => balances_toInt64 n

theorem balances_int64 : Balances readInt64 :=
  .atValue fun _ => .ite (fun sign => (balances_signed true).unmarked (by rw [sign]; rfl)) fun _ =>
    .ite (fun _ _ _ h => balances_signed false h) fun _ => keeps_error _

theorem Balances.given (h : Balances read) :
    Balances (fun s => do
      let (a, s) ← read s
      .ok (some a, s)) :=
  h.then fun a => balances_done (some a)

theorem Balances.optional (h : Balances read) : Balances (readOptional read) := by
  intro s a taken
  unfold readOptional at taken
  rw [← beyond_skipSpace]
  split at taken
  · next t first =>
    obtain ⟨rest, word, taken⟩ := bind_eq_ok.mp taken
    cases taken
    rw [first, beyond_unmarked rfl]
    exact keeps_word (unmarked_of_all rfl) word
  · exact h.given taken

theorem balances_nextElement (first : Bool) : Balances (nextElement first) := by
  unfold nextElement
  refine .first (fun c _ => ?_) _
  refine .ite (fun _ _ _ h => balances_done _ h) fun _ => ?_
  refine .ite (fun _ _ _ h => balances_done _ h) fun _ => ?_
  refine .ite (fun comma => ?_) fun _ => keeps_error _
  refine Keeps.unmarked ?_ (by rw [comma]; rfl)
  refine .first (fun d _ => ?_) _
  exact .ite (fun _ => keeps_error _) fun _ _ _ h => balances_done _ h

theorem keeps_readColon : Keeps (beyond .plain) (beyond .plain) readColon :=
  keeps_colon fun c t => .next .expectedColon (c :: t)

theorem Balances.member (h : Balances read) : Balances (readMember read) := keeps_readColon.bind h

theorem balances_key (c : Char) :
    Keeps (fun s => beyond .plain (c :: s)) (fun (_, rest) => beyond .plain rest) fun t =>
      if c = '"' then (readString t).map fun (k, rest) => (some k, rest)
      else .error (.next .keyNotString (c :: t)) :=
  .ite (fun quote => by rw [quote]; exact keeps_string.map some) fun _ => keeps_error _

theorem balances_nextKey (first : Bool) : Balances (nextKey first) := by
  unfold nextKey
  refine .first (fun c _ => ?_) _
  refine .ite (fun _ _ _ h => balances_done _ h) fun _ => .ite (fun _ => balances_key c) fun _ => ?_
  refine .ite (fun comma => ?_) fun _ => keeps_error _
  refine Keeps.unmarked ?_ (by rw [comma]; rfl)
  exact .first (fun d _ => .ite (fun _ => keeps_error _) fun _ => balances_key d) _

theorem Balances.members {field : String → σ → Reader σ} (h : ∀ key k, Balances (field key k))
    (fuel : Nat) (first : Bool) (k : σ) : Balances (readMembers field fuel first k) := by
  induction fuel generalizing first k with
  | zero => exact keeps_error _
  | succ fuel ih =>
    change Balances fun s => readMembers field (fuel + 1) first k s
    simp only [readMembers]
    refine (balances_nextKey first).then fun key => ?_
    cases key with
    | none => exact balances_done k
    | some key => exact (h key k).then fun k => ih false k

theorem Balances.once (h : Balances read) (name : String) (known : Option α) :
    Balances (readOnce name known read) := by
  unfold readOnce
  cases known with
  | some a => exact keeps_error _
  | none => exact h.member.given

theorem Balances.next (h : Balances read) (first : Bool) : Balances (readNext first read) := by
  refine (balances_nextElement first).then fun more => ?_
  cases more with
  | false => exact balances_done none
  | true => exact h.given

theorem beyond_closing (first : skipSpace s = c :: t) (closing : c = ']' ∨ c = '}') :
    beyond .plain s 0 = some t := by
  rw [← beyond_skipSpace, first]
  rcases closing with rfl | rfl <;> rfl

theorem beyond_closeList {rest : List Char} (h : closeList s = .ok rest) :
    beyond .plain s 0 = some rest := by
  unfold closeList at h
  split at h
  · cases h
  · next c t first =>
    split at h
    · next closing =>
      cases h
      exact beyond_closing first (.inl closing)
    · split at h
      · split at h <;> cases h
      · cases h

theorem beyond_closeObject {rest : List Char} (h : closeObject s = .ok rest) :
    beyond .plain s 0 = some rest := by
  unfold closeObject at h
  split at h
  · cases h
  · next c t first =>
    split at h
    · next closing =>
      cases h
      exact beyond_closing first (.inr closing)
    · split at h <;> cases h

/-- The reader takes its text up to the bracket that closes the first one. -/
def ClosesFirst (read : Reader α) : Prop :=
  ∀ ⦃s a rest⦄, read s = .ok (a, rest) →
    ∃ c t, skipSpace s = c :: t ∧ beyond .plain t 0 = some rest

theorem closesFirst_record {positional named : Reader α} (hp : Balances positional) (hn : Balances named)
    (expected : String) : ClosesFirst (readRecord expected positional named) := by
  intro s a rest taken
  unfold readRecord atValue at taken
  split at taken
  · cases taken
  · next c t first =>
    refine ⟨c, t, first, ?_⟩
    dsimp only at taken
    split at taken
    · obtain ⟨⟨b, u⟩, step, taken⟩ := bind_eq_ok.mp taken
      obtain ⟨v, closed, taken⟩ := bind_eq_ok.mp taken
      cases taken
      exact (congrFun (hp step) 0).trans (beyond_closeList closed)
    · split at taken
      · obtain ⟨⟨b, u⟩, step, taken⟩ := bind_eq_ok.mp taken
        obtain ⟨v, closed, taken⟩ := bind_eq_ok.mp taken
        cases taken
        exact (congrFun (hn step) 0).trans (beyond_closeObject closed)
      · cases taken

theorem ClosesFirst.space_of_append (h : ClosesFirst read) {text more : List Char} {a b : α}
    (part : readWhole read text = .ok a) (whole : readWhole read (text ++ more) = .ok b) :
    skipSpace more = [] := by
  have ends {u : List Char} {a : α} (taken : readWhole read u = .ok a) :
      ∃ c t rest, skipSpace u = c :: t ∧ beyond .plain t 0 = some rest ∧ skipSpace rest = [] := by
    obtain ⟨⟨_, rest⟩, step, taken⟩ := bind_eq_ok.mp taken
    obtain ⟨c, t, first, closed⟩ := h step
    refine ⟨c, t, rest, first, closed, ?_⟩
    dsimp only at taken
    split at taken
    · next nothing => exact nothing
    · cases taken
  obtain ⟨c, t, rest, first, closed, -⟩ := ends part
  obtain ⟨c', t', rest', first', closed', nothing⟩ := ends whole
  have longer : skipSpace (text ++ more) = skipSpace text ++ more := by
    rw [skipSpace, List.dropWhile_append, ← skipSpace, first]
    rfl
  rw [longer, first, List.cons_append, List.cons.injEq] at first'
  rw [← first'.2, beyond_append closed, Option.some.injEq] at closed'
  subst closed'
  rw [skipSpace, List.dropWhile_append] at nothing
  split at nothing
  · exact nothing
  · next full =>
    rw [List.append_eq_nil_iff] at nothing
    exact absurd (by rw [nothing.1]; rfl) full

end EventRelay.Json
