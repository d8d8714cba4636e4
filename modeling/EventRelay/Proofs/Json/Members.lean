import EventRelay.Proofs.Json.Meaning

namespace EventRelay.Json

abbrev Member := Option String × Tree

variable {s rest : List Char}

def UnderstandsMember (read : Reader α) (take : Tree → Option α) : Prop :=
  ∀ ⦃t s ws⦄, Blanks ws → Spells (.element t) s → ∃ ws', Blanks ws' ∧ ∀ rest, Stops rest →
    (read (ws ++ ':' :: (s ++ rest))).toOption = (take t).map fun a => (a, ws' ++ rest)

theorem readColon_append {ws : List Char} (blank : Blanks ws) (s : List Char) :
    readColon (ws ++ ':' :: s) = .ok s := by
  rw [readColon, skipSpace_append blank, skipSpace_cons (by decide)]
  rfl

theorem Understands.member {read : Reader α} {take : Tree → Option α} (h : Understands read take) :
    UnderstandsMember (readMember read) take := by
  intro t s ws blank spelled
  obtain ⟨ws', blank', taken⟩ := h spelled
  refine ⟨ws', blank', fun rest stops => ?_⟩
  rw [readMember, readColon_append blank]
  exact taken rest stops

theorem UnderstandsMember.map {read : Reader α} {take : Tree → Option α}
    (h : UnderstandsMember read take) (f : α → β) :
    UnderstandsMember (fun s => (read s).map fun (a, s) => (f a, s)) fun t => (take t).map f := by
  intro t s ws blank spelled
  obtain ⟨ws', blank', taken⟩ := h blank spelled
  refine ⟨ws', blank', fun rest stops => ?_⟩
  rw [toOption_map, taken rest stops, Option.map_map, Option.map_map]
  rfl

def once? (known : Option α) (value : Option α) : Option (Option α) :=
  match known with
  | some _ => none
  | none => value.map some

theorem Understands.once {read : Reader α} {take : Tree → Option α} (h : Understands read take)
    (name : String) (known : Option α) :
    UnderstandsMember (readOnce name known read) fun t => once? known (take t) := by
  cases known with
  | some a => exact fun t s ws _ _ => ⟨[], blanks_nil, fun _ _ => rfl⟩
  | none =>
    intro t s ws blank spelled
    obtain ⟨ws', blank', taken⟩ := h.member blank spelled
    refine ⟨ws', blank', fun rest stops => ?_⟩
    rw [readOnce, toOption_bind, taken rest stops]
    change _ = Option.map _ ((take t).map some)
    cases take t <;> rfl

theorem understands_skipped (a : α) :
    UnderstandsMember (fun s => do .ok (a, ← skipValue (← readColon s))) fun _ => some a := by
  intro t s ws blank spelled
  obtain ⟨ws', blank', passed⟩ := skipValue_element spelled
  refine ⟨ws', blank', fun rest stops => ?_⟩
  dsimp only
  rw [readColon_append blank]
  change (skipValue (s ++ rest) >>= _).toOption = _
  rw [passed rest stops]
  rfl

theorem nextKey_name {name before : List Char} {symbols : List Symbol} (blank : Blanks before)
    (h : Body name symbols) (s : List Char) :
    (nextKey true (before ++ (inQuotes name ++ s))).toOption =
      (content? symbols).map fun key => (some key, s) := by
  rw [nextKey, skipSpace_append blank, inQuotes, List.cons_append, skipSpace_cons (by decide),
    List.append_assoc]
  dsimp only
  rw [if_neg (by decide), if_pos rfl, if_pos rfl, toOption_map]
  change Option.map _ (Json.readString (name ++ '"' :: s)).toOption = _
  rw [readString_body h s, Option.map_map]
  rfl

theorem nextKey_closing {ws : List Char} (blank : Blanks ws) (first : Bool) (rest : List Char) :
    nextKey first (ws ++ '}' :: rest) = .ok (none, '}' :: rest) := by
  rw [nextKey, skipSpace_append blank, skipSpace_cons (by decide)]
  rfl

theorem nextKey_comma {ws : List Char} (blank : Blanks ws) (h : Opens s) :
    nextKey false (ws ++ ',' :: s) = nextKey true s := by
  obtain ⟨ws', _, rfl, blank', c, t, rfl, space, other⟩ := h
  have brace : c ≠ '}' := by
    rintro rfl
    exact other (by decide)
  rw [nextKey, skipSpace_append blank, skipSpace_cons (by decide)]
  dsimp only
  rw [if_neg (by decide), if_neg (by decide), if_pos rfl]
  rw [nextKey, skipSpace_append blank', skipSpace_cons space]
  dsimp only
  rw [if_neg brace, if_neg brace, if_pos rfl]

theorem length_members {ms : List Member} {s : List Char} (h : Spells (.members ms) s) :
    ms.length ≤ s.length := by
  generalize node : Node.members ms = n at h
  induction h generalizing ms with
  | noMember =>
    cases node
    exact Nat.zero_le _
  | lastMember h =>
    cases node
    obtain ⟨ws, t, rfl, -, c, u, rfl, -⟩ := opens_member h
    simp only [List.length_append, List.length_cons, List.length_nil]
    omega
  | members h _ _ ih =>
    cases node
    have := ih rfl
    simp only [List.length_append, List.length_cons] at this ⊢
    omega
  | _ => cases node

section Objects

variable {field : String → σ → Reader σ} {learn : String → Tree → σ → Option σ}

def learnMember (learn : String → Tree → σ → Option σ) (k : σ) (m : Member) : Option σ :=
  m.1.bind fun name => learn name m.2 k

theorem readMembers_member (h : ∀ name k, UnderstandsMember (field name k) fun t => learn name t k)
    {m : Member} (spelled : Spells (.member m) s) (k : σ) :
    ∃ ws, Blanks ws ∧ ∀ fuel rest, Stops rest →
      (readMembers field (fuel + 1) true k (s ++ rest)).toOption =
        (learnMember learn k m).bind fun k =>
          (readMembers field fuel false k (ws ++ rest)).toOption := by
  cases spelled with
  | @member t name s before behind symbols hb hn hr hs =>
    have start (rest : List Char) := nextKey_name hb hn (behind ++ ':' :: (s ++ rest))
    have text (rest : List Char) : before ++ (inQuotes name ++ (behind ++ ':' :: s)) ++ rest =
        before ++ (inQuotes name ++ (behind ++ ':' :: (s ++ rest))) := by
      simp only [List.append_assoc, List.cons_append]
    cases content : content? symbols with
    | none =>
      refine ⟨[], blanks_nil, fun fuel rest _ => ?_⟩
      rw [text, readMembers, toOption_bind, start, content]
      rfl
    | some key =>
      obtain ⟨ws, blank, taken⟩ := h key k hr hs
      refine ⟨ws, blank, fun fuel rest stops => ?_⟩
      rw [text, readMembers, toOption_bind, start, content, Option.map_some, Option.bind_some,
        learnMember, Option.bind_some]
      change (field key k _ >>= _).toOption = _
      rw [toOption_bind, taken rest stops, Option.bind_map]
      rfl

theorem readMembers_comma {ws : List Char} (blank : Blanks ws) (opens : Opens s) (fuel : Nat)
    (k : σ) : readMembers field (fuel + 1) false k (ws ++ ',' :: s) =
      readMembers field (fuel + 1) true k s := by
  rw [readMembers, readMembers, nextKey_comma blank opens]

theorem readMembers_closing {ws : List Char} (blank : Blanks ws) (first : Bool) (fuel : Nat)
    (k : σ) (rest : List Char) :
    readMembers field (fuel + 1) first k (ws ++ '}' :: rest) = .ok (k, '}' :: rest) := by
  rw [readMembers, nextKey_closing blank]
  rfl

def learnAll (learn : String → Tree → σ → Option σ) (k : σ) (ms : List Member) : Option σ :=
  ms.foldlM (learnMember learn) k

theorem readMembers_members
    (h : ∀ name k, UnderstandsMember (field name k) fun t => learn name t k)
    {ms : List Member} (spelled : Spells (.members ms) s) (k : σ) {fuel : Nat}
    (enough : ms.length < fuel) (rest : List Char) :
    (readMembers field fuel true k (s ++ '}' :: rest)).toOption =
      (learnAll learn k ms).map fun k => (k, '}' :: rest) := by
  -- each member takes one step, and the closing bracket takes the last
  obtain ⟨fuel, rfl⟩ := Nat.exists_eq_add_one_of_ne_zero (Nat.ne_zero_of_lt enough)
  generalize node : Node.members ms = n at spelled
  induction spelled generalizing ms k fuel with
  | noMember blank =>
    cases node
    rw [readMembers_closing blank]
    rfl
  | @lastMember m s hm =>
    cases node
    obtain ⟨ws, blank, taken⟩ := readMembers_member h hm k
    obtain _ | fuel := fuel
    · cases Nat.lt_of_succ_lt_succ enough
    · rw [taken (fuel + 1) _ (stops_cons (by decide) rest), learnAll, List.foldlM_cons]
      cases learnMember learn k m with
      | none => rfl
      | some k =>
        rw [Option.bind_some, readMembers_closing blank]
        rfl
  | @members m n ms s more hm hr _ ih =>
    cases node
    obtain ⟨ws, blank, taken⟩ := readMembers_member h hm k
    obtain _ | fuel := fuel
    · cases Nat.lt_of_succ_lt_succ enough
    · rw [List.append_assoc, List.cons_append, taken (fuel + 1) _ (stops_cons (by decide) _),
        learnAll, List.foldlM_cons]
      cases learnMember learn k m with
      | none => rfl
      | some k =>
        rw [Option.bind_some, readMembers_comma blank ((opens_members hr).append _)]
        exact ih k fuel (Nat.lt_of_succ_lt_succ enough) rfl
  | _ => cases node

end Objects

end EventRelay.Json
