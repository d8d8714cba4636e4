import EventRelay.Proofs.Json.OneLine

namespace EventRelay.Json

theorem follows_skipString : Follows skipString oneLine := by
  intro s rest h
  -- an escape is told by its second character, and four digits may follow that
  fun_induction skipString s with
  | case1 => cases h
  | case2 s =>
    cases h
    rw [oneLine_cons rfl, skipString.eq_def]
    dsimp only
    rw [if_pos rfl]
  | case3 => cases h
  | case4 d s simple notQuote ih =>
    rw [oneLine_cons rfl, oneLine, List.map_cons, ← oneLine, skipString.eq_def]
    dsimp only
    rw [if_neg notQuote, if_pos rfl, simpleEscape?_unbroken, if_pos simple]
    exact ih h
  | case5 => cases h
  | case6 s n t hex shorter notQuote notSimple ih =>
    rw [oneLine_cons rfl, oneLine_cons rfl, skipString.eq_def]
    dsimp only
    rw [if_neg notQuote, if_pos rfl, if_neg notSimple, if_pos rfl]
    split
    · next failed =>
      rw [steady_hex hex] at failed
      cases failed
    · next taken =>
      rw [steady_hex hex] at taken
      cases taken
      exact ih h
  | case7 => cases h
  | case8 => cases h
  | case9 c s notQuote notEscape printed ih =>
    rw [oneLine, List.map_cons, unbroken_of_le printed, ← oneLine, skipString.eq_def]
    dsimp only
    rw [if_neg notQuote, if_neg notEscape, if_neg printed]
    exact ih h

theorem follows_skipExponent : Follows skipExponent oneLine := by
  intro s rest h
  unfold skipExponent at h ⊢
  rw [splitSign_oneLine]
  dsimp only
  generalize (splitSign s).2 = t at h ⊢
  cases t with
  | nil => cases h
  | cons c t =>
    dsimp only at h
    split at h
    · next digit =>
      cases h
      rw [oneLine_cons (not_isSpace_of_isDigit digit)]
      dsimp only
      rw [if_pos digit, dropDigits_oneLine]
    · cases h

theorem follows_skipFraction : Follows skipFraction oneLine := by
  intro s rest h
  unfold skipFraction at h ⊢
  rw [takeDigits_oneLine, dropDigits_oneLine]
  dsimp only at h ⊢
  split at h
  · cases h
  · next digits =>
    rw [if_neg digits]
    exact follows_skipExponent.exponent follows_ok h

theorem follows_skipNumber : Follows skipNumber oneLine := by
  intro s rest h
  unfold skipNumber at h
  split at h
  · cases h
  · next c s =>
    split at h
    · cases h
    · next digit =>
      have plain := not_isSpace_of_isDigit (Decidable.not_not.mp digit)
      rw [oneLine_cons plain, skipNumber, if_neg digit]
      dsimp only at h ⊢
      rw [dropDigits_oneLine, ← apply_ite oneLine]
      generalize (if c = '0' then s else s.dropWhile isDigit) = after at h ⊢
      rw [headDigit_oneLine]
      split at h
      · cases h
      · next leading =>
        rw [if_neg leading]
        exact follows_skipFraction.point follows_skipExponent follows_ok h

theorem Follows.first {f : Char → List Char → Except Fault α} {left : α → α}
    (h : ∀ c, isSpace c = false → Follows (f c) left) (e : Fault) :
    Follows (fun s => match skipSpace s with
      | [] => .error e
      | c :: t => f c t) left := by
  intro s a taken
  dsimp only at taken ⊢
  split at taken
  · cases taken
  · next c t first =>
    rw [skipSpace_oneLine_cons first]
    exact h c (not_isSpace_of_skipSpace first) taken

theorem follows_skipScalar {c : Char} (plain : isSpace c = false) :
    Follows (skipScalar c) oneLine := by
  unfold skipScalar
  refine .ite (fun _ => follows_word (by simp [isSpace])) fun _ => ?_
  refine .ite (fun _ => follows_word (by simp [isSpace])) fun _ => ?_
  refine .ite (fun _ => follows_word (by simp [isSpace])) fun _ => ?_
  refine .ite (fun _ => follows_skipString) fun _ => ?_
  refine .ite (fun _ => follows_skipNumber) fun _ => ?_
  refine .ite (fun _ => ?_) fun _ => follows_error _
  exact follows_skipNumber.behind plain

def oneLineStep : Phase × List Bracket × List Char → Phase × List Bracket × List Char
  | (phase, stack, rest) => (phase, stack, oneLine rest)

theorem follows_step (phase : Phase) (stack : List Bracket) :
    Follows (fun s => .ok (phase, stack, s)) oneLineStep := by
  intro s a h
  cases h
  rfl

theorem follows_skipToken (stack : List Bracket) : Follows (skipToken stack) oneLineStep := by
  unfold skipToken
  refine .first (fun c plain => ?_) _
  refine .ite (fun _ => follows_step _ _) fun _ => .ite (fun _ => follows_step _ _) fun _ => ?_
  intro s a h
  obtain ⟨rest, scalar, rfl⟩ := map_eq_ok.mp h
  exact map_eq_ok.mpr ⟨_, follows_skipScalar plain scalar, rfl⟩

theorem follows_skipKey : Follows skipKey oneLine := by
  unfold skipKey
  refine .first (fun c plain => ?_) _
  refine .ite (fun _ => follows_error _) fun _ => ?_
  refine follows_skipString.bind ?_
  refine .first (fun c plain => ?_) _
  exact .ite (fun _ => follows_ok) fun _ => follows_error _

theorem follows_skipEntry (b : Bracket) (stack : List Bracket) :
    Follows (fun s => match b with
      | .list => skipToken (.list :: stack) s
      | .object => do skipToken (.object :: stack) (← skipKey s)) oneLineStep := by
  cases b with
  | list => exact follows_skipToken _
  | object => exact follows_skipKey.bind (follows_skipToken _)

theorem follows_skipInside (afterValue : Bool) (b : Bracket) (stack : List Bracket) :
    Follows (skipInside afterValue b stack) oneLineStep := by
  unfold skipInside
  refine .first (fun c plain => ?_) _
  refine .ite (fun _ => follows_step _ _) fun _ => .ite (fun _ => follows_error _) fun _ => ?_
  cases afterValue with
  | false => exact (follows_skipEntry b stack).behind plain
  | true => exact follows_skipEntry b stack

theorem follows_skipStep (phase : Phase) (stack : List Bracket) :
    Follows (skipStep phase stack) oneLineStep := by
  cases phase with
  | value => exact follows_skipToken stack
  | opened =>
    cases stack with
    | nil => exact follows_skipToken []
    | cons b stack => exact follows_skipInside false b stack
  | closedValue =>
    cases stack with
    | nil => exact follows_skipToken []
    | cons b stack => exact follows_skipInside true b stack

theorem follows_skipAll (phase : Phase) (stack : List Bracket) :
    Follows (skipAll phase stack) oneLine := by
  intro s rest h
  fun_induction skipAll phase stack s with
  | case1 phase stack s ended =>
    cases h
    rw [skipAll, if_pos ended]
  | case2 => cases h
  | case3 phase stack s open' phase' stack' t step shorter ih =>
    rw [skipAll, if_neg open']
    split
    · next failed =>
      rw [follows_skipStep phase stack step] at failed
      cases failed
    · next taken =>
      rw [follows_skipStep phase stack step] at taken
      cases taken
      exact ih h

theorem follows_skipValue : Follows skipValue oneLine := follows_skipAll .value []

variable {read : Reader α}

theorem Steady.atValue {read : Char → Reader α} (h : ∀ c, isSpace c = false → Steady (read c)) :
    Steady fun s => atValue s read := Follows.first h _

theorem steady_text (expected : String) : Steady (readText expected) :=
  .atValue fun _ _ => .ite (fun _ => steady_string) fun _ => follows_error _

theorem steady_toInt64 (n : Numeral) : Steady n.toInt64 := by
  unfold Numeral.toInt64
  cases n with
  | natural n => exact .ite (fun _ => steady_done _) fun _ => follows_error _
  | negative n => exact steady_done _
  | real minus x => exact follows_error _

theorem steady_signed (minus : Bool) :
    Steady (fun s => do
      let (n, s) ← readNumber minus s
      n.toInt64 s) :=
  steady_number.bind fun n => steady_toInt64 n

theorem steady_int64 : Steady readInt64 :=
  .atValue fun _ plain => .ite (fun _ => steady_signed true) fun _ =>
    .ite (fun _ => (steady_signed false).behind plain) fun _ => follows_error _

theorem Steady.given (h : Steady read) :
    Steady (fun s => do
      let (a, s) ← read s
      .ok (some a, s)) :=
  h.bind fun a => steady_done (some a)

theorem steady_null (α : Type) :
    Steady (fun s => do
      let s ← readWord ['u', 'l', 'l'] s
      .ok ((none : Option α), s)) :=
  Follows.bind (follows_word (by simp [isSpace])) (steady_done none)

theorem Steady.optional (h : Steady read) : Steady (readOptional read) := by
  intro s a taken
  unfold readOptional at taken ⊢
  rw [skipSpace_oneLine]
  split at taken
  · next t first =>
    rw [first, oneLine_cons rfl]
    exact steady_null _ taken
  · next other =>
    split
    · next t same =>
      obtain ⟨u, first, -⟩ := (oneLine_eq_cons rfl).mp same
      exact absurd first (other u)
    · exact h.given taken

theorem steady_nextElement (first : Bool) : Steady (nextElement first) := by
  unfold nextElement
  refine .first (fun c plain => ?_) _
  refine .ite (fun _ => (steady_done _).behind plain) fun _ => ?_
  refine .ite (fun _ => (steady_done _).behind plain) fun _ => ?_
  refine .ite (fun _ => .first (fun d plain => ?_) _) fun _ => follows_error _
  exact .ite (fun _ => follows_error _) fun _ => (steady_done _).behind plain

theorem follows_closeList : Follows closeList oneLine := by
  unfold closeList
  refine .first
    (fun c plain => .ite (fun _ => follows_ok) fun _ => .ite (fun _ => ?_) fun _ => ?_) _
  · intro s rest h
    dsimp only at h
    split at h <;> cases h
  · exact follows_error _

theorem follows_readColon : Follows readColon oneLine := by
  unfold readColon
  exact .first (fun c plain => .ite (fun _ => follows_ok) fun _ => follows_error _) _

theorem Steady.member (h : Steady read) : Steady (readMember read) := follows_readColon.bind h

theorem steady_key (c : Char) :
    Steady fun t =>
      if c = '"' then (readString t).map fun (k, rest) => (some k, rest)
      else .error (.next .keyNotString (c :: t)) :=
  .ite (fun _ => steady_string.map some) fun _ => follows_error _

theorem steady_nextKey (first : Bool) : Steady (nextKey first) := by
  unfold nextKey
  refine .first (fun c plain => ?_) _
  refine .ite (fun _ => (steady_done _).behind plain) fun _ => .ite (fun _ => steady_key c) ?_
  intro _
  refine .ite (fun _ => .first (fun d plain => ?_) _) fun _ => follows_error _
  exact .ite (fun _ => follows_error _) fun _ => steady_key d

theorem follows_closeObject : Follows closeObject oneLine := by
  unfold closeObject
  exact .first (fun c plain => .ite (fun _ => follows_ok) fun _ =>
    .ite (fun _ => follows_error _) fun _ => follows_error _) _

theorem Steady.members {field : String → σ → Reader σ} (h : ∀ key k, Steady (field key k))
    (fuel : Nat) (first : Bool) (k : σ) : Steady (readMembers field fuel first k) := by
  induction fuel generalizing first k with
  | zero => exact follows_error _
  | succ fuel ih =>
    change Steady fun s => readMembers field (fuel + 1) first k s
    simp only [readMembers]
    refine (steady_nextKey first).bind fun key => ?_
    cases key with
    | none => exact steady_done k
    | some key => exact (h key k).bind fun k => ih false k

theorem Steady.close {close : List Char → Except Fault (List Char)} (h : Steady read)
    (hc : Follows close oneLine) :
    Steady (fun s => do
      let (a, s) ← read s
      .ok (a, ← close s)) :=
  h.bind fun a => hc.bind (steady_done a)

theorem Steady.record {positional named : Reader α} (hp : Steady positional) (hn : Steady named)
    (expected : String) : Steady (readRecord expected positional named) :=
  .atValue fun _ _ => .ite (fun _ => hp.close follows_closeList) fun _ =>
    .ite (fun _ => hn.close follows_closeObject) fun _ => follows_error _

theorem Steady.once (h : Steady read) (name : String) (known : Option α) :
    Steady (readOnce name known read) := by
  unfold readOnce
  cases known with
  | some a => exact follows_error _
  | none => exact h.member.bind fun a => steady_done (some a)

theorem Steady.next (h : Steady read) (first : Bool) : Steady (readNext first read) := by
  refine (steady_nextElement first).bind fun more => ?_
  cases more with
  | false => exact steady_done none
  | true => exact h.bind fun a => steady_done (some a)

theorem Steady.whole (h : Steady read) {text : List Char} {a : α}
    (taken : readWhole read text = .ok a) : readWhole read (oneLine text) = .ok a := by
  obtain ⟨⟨b, rest⟩, step, taken⟩ := bind_eq_ok.mp taken
  refine bind_eq_ok.mpr ⟨_, h step, ?_⟩
  dsimp only at taken ⊢
  split at taken
  · next nothing =>
    rw [skipSpace_oneLine_nil nothing]
    exact taken
  · cases taken

end EventRelay.Json
