import EventRelay.Proofs.Json.Scalars
import EventRelay.Proofs.Text.Blank

namespace EventRelay.Json

def following (items : List (List Char)) : List Char := items.flatMap (',' :: ·)

theorem intercalate_cons (item : List Char) (items : List (List Char)) :
    List.intercalate [','] (item :: items) = item ++ following items := by
  induction items generalizing item with
  | nil => simp [following]
  | cons next items ih =>
    rw [List.intercalate_cons_cons, ih]
    simp [following]

theorem bracketed_append (opening closing : Char) (items : List (List Char)) (rest : List Char) :
    bracketed opening closing items ++ rest =
      opening :: (List.intercalate [','] items ++ closing :: rest) := by
  simp [bracketed]

theorem ends_following (items : List (List Char)) {rest : List Char} (ends : Ends rest) :
    Ends (following items ++ rest) := by
  cases items with
  | nil => exact ends
  | cons item items => exact .item _

theorem isPrinted_bracketed {opening closing : Char} {items : List (List Char)}
    (ho : 0x20 ≤ opening.toNat) (hc : 0x20 ≤ closing.toNat) (h : ∀ item ∈ items, IsPrinted item) :
    IsPrinted (bracketed opening closing items) := by
  have inner : IsPrinted (List.intercalate [','] items) := by
    cases items with
    | nil => intro c hc; cases hc
    | cons item items =>
      rw [intercalate_cons]
      refine .append (h item List.mem_cons_self) ?_
      intro c hc
      obtain ⟨next, hn, hm⟩ := List.mem_flatMap.mp hc
      exact IsPrinted.cons (by decide) (h next (List.mem_cons_of_mem _ hn)) c hm
  exact .append (.cons ho inner) (.cons hc fun _ h => by cases h)

theorem nextElement_end (first : Bool) (rest : List Char) :
    nextElement first (']' :: rest) = .ok (false, ']' :: rest) := by
  rw [nextElement, skipSpace_cons (by decide)]
  rfl

theorem nextElement_first {text : List Char} (h : Shows text) (rest : List Char) :
    nextElement true (text ++ rest) = .ok (true, text ++ rest) := by
  obtain ⟨c, s, space, -, bracket⟩ := h
  rw [List.cons_append, nextElement, skipSpace_cons space]
  simp only [bracket, if_false, if_true]

theorem nextElement_next {text : List Char} (h : Shows text) (rest : List Char) :
    nextElement false (',' :: (text ++ rest)) = .ok (true, text ++ rest) := by
  obtain ⟨c, s, space, -, bracket⟩ := h
  rw [nextElement, skipSpace_cons (by decide), List.cons_append]
  simp only [skipSpace_cons space, bracket, if_false, if_true]
  rfl

section Lists

variable {read : Reader α} {write : α → List Char}

theorem readElements_following (reads : ∀ a, Reads read (write a) a) (shows : ∀ a, Shows (write a))
    (as done : List α) (rest : List Char) {fuel : Nat} (fits : as.length < fuel) :
    readElements read fuel false done (following (as.map write) ++ ']' :: rest) =
      .ok (done.reverse ++ as, ']' :: rest) := by
  induction as generalizing done fuel with
  | nil =>
    obtain _ | fuel := fuel
    · cases fits
    · change readElements read (fuel + 1) false done (']' :: rest) = _
      rw [readElements, nextElement_end, List.append_nil]
      rfl
  | cons a as ih =>
    obtain _ | fuel := fuel
    · cases fits
    · have step := reads a (following (as.map write) ++ ']' :: rest) (ends_following _ (.list rest))
      have more := nextElement_next (shows a) (following (as.map write) ++ ']' :: rest)
      have text : following ((a :: as).map write) ++ ']' :: rest =
          ',' :: (write a ++ (following (as.map write) ++ ']' :: rest)) := by
        simp [following]
      rw [text, readElements, more]
      change (read _ >>= _) = _
      rw [step]
      change readElements read fuel false (a :: done) _ = _
      rw [ih (a :: done) (Nat.lt_of_succ_lt_succ fits), List.reverse_cons, List.append_assoc]
      rfl

theorem length_le_following (items : List (List Char)) :
    items.length ≤ (following items).length := by
  induction items with
  | nil => exact Nat.le_refl 0
  | cons item items ih =>
    simp only [following, List.flatMap_cons, List.length_append, List.length_cons] at ih ⊢
    omega

theorem reads_list (reads : ∀ a, Reads read (write a) a) (shows : ∀ a, Shows (write a))
    (as : List α) : Reads (readList read) (bracketed '[' ']' (as.map write)) as := by
  intro rest _
  have body : readElements read ((List.intercalate [','] (as.map write) ++ ']' :: rest).length + 1)
      true [] (List.intercalate [','] (as.map write) ++ ']' :: rest) = .ok (as, ']' :: rest) := by
    cases as with
    | nil =>
      change readElements read _ true [] (']' :: rest) = _
      rw [readElements, nextElement_end]
      rfl
    | cons a as =>
      have step := reads a (following (as.map write) ++ ']' :: rest) (ends_following _ (.list rest))
      have more := nextElement_first (shows a) (following (as.map write) ++ ']' :: rest)
      -- The fuel is the length of the text, and every item has a comma of its own.
      have fits := length_le_following (as.map write)
      rw [List.length_map] at fits
      rw [List.map_cons, intercalate_cons, List.append_assoc, readElements, more]
      change (read _ >>= _) = _
      rw [step]
      change readElements read _ false [a] _ = _
      rw [readElements_following reads shows as [a] rest]
      · rfl
      · have := (shows a).length_pos
        simp only [List.length_append, List.length_cons]
        omega
  rw [bracketed_append, readList, atValue, skipSpace_cons (by decide)]
  simp only [if_true]
  rw [readListBody, body]
  change (closeList (']' :: rest) >>= fun s => .ok (as, s)) = _
  rw [closeList, skipSpace_cons (by decide)]
  rfl

end Lists

theorem nextKey_end (first : Bool) (rest : List Char) :
    nextKey first ('}' :: rest) = .ok (none, '}' :: rest) := by
  rw [nextKey, skipSpace_cons (by decide)]
  rfl

theorem nextKey_first (key : String) (rest : List Char) :
    nextKey true (renderString key ++ rest) = .ok (some key, rest) := by
  rw [renderString_append, nextKey, skipSpace_cons (by decide)]
  simp only [if_true, readString_escaped]
  rfl

theorem nextKey_next (key : String) (rest : List Char) :
    nextKey false (',' :: (renderString key ++ rest)) = .ok (some key, rest) := by
  rw [renderString_append, nextKey, skipSpace_cons (by decide)]
  simp only [skipSpace_cons (show isSpace '"' = false by decide), if_true, readString_escaped]
  rfl

/-- The members of an object take a reader of fields from one knowledge to another. -/
inductive Takes (field : String → σ → Reader σ) : List (String × Value) → σ → σ → Prop
  | nil (k : σ) : Takes field [] k k
  | cons {key : String} {v : Value} {members : List (String × Value)} {k k' k'' : σ}
    (first : Reads (field key k) (':' :: v.render) k') (rest : Takes field members k' k'') :
    Takes field ((key, v) :: members) k k''

section Objects

variable {field : String → σ → Reader σ} {members : List (String × Value)} {k k' : σ}

theorem Takes.append {others : List (String × Value)} {k'' : σ} (h : Takes field members k k')
    (h' : Takes field others k' k'') : Takes field (members ++ others) k k'' := by
  induction h with
  | nil => exact h'
  | cons first _ ih => exact .cons first (ih h')

theorem isPrinted_object (h : ∀ m ∈ members, IsPrinted m.2.render) :
    IsPrinted (bracketed '{' '}' (renderMembers members)) := by
  refine isPrinted_bracketed (by decide) (by decide) ?_
  induction members with
  | nil => intro item hi; cases hi
  | cons m members ih =>
    intro item hi
    rcases List.mem_cons.mp hi with rfl | hi
    · exact (isPrinted_renderString m.1).append (.cons (by decide) (h m List.mem_cons_self))
    · exact ih (fun m hm => h m (List.mem_cons_of_mem _ hm)) item hi

theorem Takes.following (h : Takes field members k k') (rest : List Char) {fuel : Nat}
    (fits : members.length < fuel) :
    readMembers field fuel false k (Json.following (renderMembers members) ++ '}' :: rest) =
      .ok (k', '}' :: rest) := by
  induction h generalizing fuel with
  | nil k =>
    obtain _ | fuel := fuel
    · cases fits
    · change readMembers field (fuel + 1) false k ('}' :: rest) = _
      rw [readMembers, nextKey_end]
      rfl
  | @cons key v members k k' k'' first _ ih =>
    obtain _ | fuel := fuel
    · cases fits
    · have step := first _ (ends_following (renderMembers members) (.object rest))
      have text : Json.following (renderMembers ((key, v) :: members)) ++ '}' :: rest =
          ',' :: (renderString key ++ (':' :: v.render ++
            (Json.following (renderMembers members) ++ '}' :: rest))) := by
        simp [Json.following, renderMembers]
      rw [text, readMembers, nextKey_next]
      change (field key k _ >>= _) = _
      rw [step]
      exact ih (Nat.lt_of_succ_lt_succ fits)

theorem length_renderMembers (members : List (String × Value)) :
    (renderMembers members).length = members.length := by
  induction members with
  | nil => rfl
  | cons m members ih =>
    rw [renderMembers, List.length_cons, List.length_cons, ih]

theorem Takes.readMembers (h : Takes field members k k') (rest : List Char) :
    Json.readMembers field
        ((List.intercalate [','] (renderMembers members) ++ '}' :: rest).length + 1) true k
        (List.intercalate [','] (renderMembers members) ++ '}' :: rest) =
      .ok (k', '}' :: rest) := by
  cases h with
  | nil =>
    change Json.readMembers field _ true k ('}' :: rest) = _
    rw [Json.readMembers, nextKey_end]
    rfl
  | @cons key v members _ k' _ first others =>
    have step := first _ (ends_following (renderMembers members) (.object rest))
    have fits := length_le_following (renderMembers members)
    rw [length_renderMembers] at fits
    have text : List.intercalate [','] (renderMembers ((key, v) :: members)) ++ '}' :: rest =
        renderString key ++ (':' :: v.render ++
          (Json.following (renderMembers members) ++ '}' :: rest)) := by
      rw [renderMembers, intercalate_cons]
      simp
    rw [text, Json.readMembers, nextKey_first]
    change (field key k _ >>= _) = _
    rw [step]
    refine others.following rest ?_
    simp only [List.length_append, List.length_cons]
    omega

theorem Reads.map {read : Reader α} {text : List Char} {a : α} (h : Reads read text a)
    (f : α → β) : Reads (fun s => (read s).map fun (a, s) => (f a, s)) text (f a) := by
  intro rest ends
  simp only [h rest ends]
  rfl

theorem reads_once {read : Reader α} {text : List Char} {a : α} (h : Reads read text a)
    (name : String) : Reads (readOnce name none read) (':' :: text) (some a) := by
  intro rest ends
  have step := h rest ends
  rw [List.cons_append, readOnce, readMember, readColon, skipSpace_cons (by decide)]
  change (read (text ++ rest) >>= _) = _
  rw [step]
  rfl

theorem readRecord_object (positional : Reader α) {named : Reader α} {a : α}
    {items : List (List Char)} (expected : String) (rest : List Char)
    (h : named (List.intercalate [','] items ++ '}' :: rest) = .ok (a, '}' :: rest)) :
    readRecord expected positional named (bracketed '{' '}' items ++ rest) = .ok (a, rest) := by
  rw [bracketed_append, readRecord, atValue, skipSpace_cons (by decide)]
  simp only [if_true, h]
  change (closeObject ('}' :: rest) >>= fun s => .ok (a, s)) = _
  rw [closeObject, skipSpace_cons (by decide)]
  rfl

end Objects

theorem readWhole_ok {read : Reader α} {text : List Char} {a : α}
    (h : ∀ rest, read (text ++ rest) = .ok (a, rest)) : readWhole read text = .ok a := by
  have whole := h []
  rw [List.append_nil] at whole
  rw [readWhole, whole]
  rfl

theorem trimList_object (items : List (List Char)) :
    Text.trimList (bracketed '{' '}' items) = bracketed '{' '}' items :=
  Text.trimList_between (by decide) (by decide) _

theorem trimList_object_feed (items : List (List Char)) :
    Text.trimList (bracketed '{' '}' items ++ ['\n']) = bracketed '{' '}' items :=
  Text.trimList_between_blank (by decide) (by decide) (by decide) _

end EventRelay.Json
