import EventRelay.Proofs.Toml.Scalars

namespace EventRelay.Toml

variable {c e : Char} {s t rest : List Char} {name : String} {path : List String}

def IsName (name : String) : Prop := name.toList ≠ [] ∧ ∀ c ∈ name.toList, isBare c = true

instance : DecidablePred IsName := fun name =>
  decidable_of_iff (name.toList.isEmpty = false ∧ name.toList.all isBare = true) (by simp [IsName])

theorem ne_of_isBare (bare : isBare c = true) (other : isBare e = false) : c ≠ e := by
  rintro rfl
  rw [bare] at other
  cases other

theorem isSolid_of_isBare (bare : isBare c = true) : IsSolid c := by
  simp [IsSolid, ne_of_isBare bare (show isBare ' ' = false by decide),
    ne_of_isBare bare (show isBare '\t' = false by decide),
    ne_of_isBare bare (show isBare '#' = false by decide),
    ne_of_isBare bare (show isBare '\n' = false by decide),
    ne_of_isBare bare (show isBare '\r' = false by decide)]

theorem isBare_of_isDigit (digit : isDigit c = true) : isBare c = true := by
  have digit : c.isDigit = true := digit
  simp [isBare, Char.isAlphanum, digit]

theorem IsName.head (h : IsName name) : ∃ c t, name.toList = c :: t ∧ isBare c = true := by
  obtain ⟨some, bare⟩ := h
  obtain ⟨c, t, shown⟩ := List.exists_cons_of_ne_nil some
  exact ⟨c, t, shown, bare c (shown ▸ List.mem_cons_self)⟩

theorem readSimpleKey_name (h : IsName name) (stop : isBare e = false) (rest : List Char) :
    readSimpleKey (name.toList ++ e :: rest) = some (name, e :: rest) := by
  have taken : (name.toList ++ e :: rest).takeWhile isBare = name.toList := by
    simp [List.takeWhile_append_of_pos h.2, stop]
  have left : (name.toList ++ e :: rest).dropWhile isBare = e :: rest := by
    simp [List.dropWhile_append_of_pos h.2, stop]
  obtain ⟨c, t, shown, bare⟩ := h.head
  have double : c ≠ '"' := ne_of_isBare bare (by decide)
  have single : c ≠ '\x27' := ne_of_isBare bare (by decide)
  rw [readSimpleKey]
  · rw [taken, left, String.ofList_toList]
    exact if_neg (by simpa using h.1)
  · rw [shown]
    exact fun _ same => double (List.cons.inj same).1
  · rw [shown]
    exact fun _ same => single (List.cons.inj same).1

def joined (path : List String) : List Char := ['.'].intercalate (path.map String.toList)

theorem joined_singleton (name : String) : joined [name] = name.toList := List.intercalate_singleton

theorem joined_cons_cons (name next : String) (path : List String) :
    joined (name :: next :: path) = name.toList ++ '.' :: joined (next :: path) := by
  simp [joined, List.intercalate_cons_cons]

theorem joined_head (some : path ≠ []) (names : ∀ name ∈ path, IsName name) :
    ∃ c t, joined path = c :: t ∧ isBare c = true := by
  match path with
  | [name] =>
    rw [joined_singleton]
    exact (names name List.mem_cons_self).head
  | name :: next :: path =>
    obtain ⟨c, t, shown, bare⟩ := (names name List.mem_cons_self).head
    exact ⟨c, t ++ '.' :: joined (next :: path), by rw [joined_cons_cons, shown]; rfl, bare⟩

theorem skipSpace_name (h : IsName name) (rest : List Char) :
    skipSpace (name.toList ++ rest) = name.toList ++ rest := by
  obtain ⟨c, t, shown, bare⟩ := h.head
  rw [shown]
  exact skipSpace_solid (isSolid_of_isBare bare) _

theorem readNames_joined (some : path ≠ []) (names : ∀ name ∈ path, IsName name)
    (read : List String) (stop : isBare e = false) (skip : skipSpace (e :: rest) = c :: t)
    (dot : c ≠ '.') {fuel : Nat} (enough : path.length ≤ fuel) :
    readNames read fuel (joined path ++ e :: rest) = .some (read.reverse ++ path, c :: t) := by
  induction path generalizing read fuel with
  | nil => exact absurd rfl some
  | cons name path ih =>
    obtain ⟨first, names⟩ := List.forall_mem_cons.mp names
    obtain ⟨fuel, rfl⟩ := Nat.exists_eq_add_of_le' enough
    cases path with
    | nil =>
      rw [joined_singleton, List.length_singleton, readNames, skipSpace_name first,
        readSimpleKey_name first stop, Option.bind_eq_bind, Option.bind_some]
      dsimp only
      rw [skip]
      split
      · next same => exact absurd (List.cons.inj same).1 dot
      · rw [List.reverse_cons]
    | cons next path =>
      have dotted : skipSpace ('.' :: (joined (next :: path) ++ e :: rest)) =
          '.' :: (joined (next :: path) ++ e :: rest) := skipSpace_solid (by decide) _
      rw [joined_cons_cons, List.append_assoc, List.cons_append, List.length_cons, ← Nat.add_assoc,
        readNames, skipSpace_name first,
        readSimpleKey_name first (by decide), Option.bind_eq_bind, Option.bind_some]
      dsimp only
      rw [dotted]
      refine (ih (List.cons_ne_nil _ _) names (name :: read) (Nat.le_add_left _ _)).trans ?_
      simp

theorem length_le_joined (names : ∀ name ∈ path, IsName name) :
    path.length ≤ (joined path).length := by
  induction path with
  | nil => exact Nat.le_refl _
  | cons name path ih =>
    obtain ⟨first, names⟩ := List.forall_mem_cons.mp names
    have full := List.length_pos_iff.mpr first.1
    have few := ih names
    cases path with
    | nil => rwa [joined_singleton]
    | cons next path =>
      rw [joined_cons_cons]
      simp only [List.length_append, List.length_cons] at few ⊢
      omega

theorem readKey_joined (some : path ≠ []) (names : ∀ name ∈ path, IsName name)
    (short : path.length < keyLimit) (stop : isBare e = false)
    (skip : skipSpace (e :: rest) = c :: t) (dot : c ≠ '.') :
    readKey (joined path ++ e :: rest) = .some (path, c :: t) := by
  have few := length_le_joined names
  rw [readKey, readNames_joined some names [] stop skip dot, Option.bind_eq_bind, Option.bind_some]
  · exact if_pos short
  · simp only [List.length_append]
    omega

theorem render_head {v : Scalar} (fits : v.Fits) : ∃ c t, v.render = c :: t ∧ IsSolid c := by
  cases v with
  | string s =>
    obtain ⟨q, t, shown, quote⟩ := renderString_head s
    exact ⟨q, t, shown, by rcases quote with rfl | rfl <;> decide⟩
  | integer n =>
    obtain ⟨n, -, rfl⟩ := fits
    rw [render_integer]
    cases hd : Nat.toDigits 10 n with
    | nil => exact absurd hd Nat.toDigits_ne_nil
    | cons d ds =>
      have digit : isDigit d = true := isDigit_of_mem_toDigits (hd ▸ List.mem_cons_self)
      exact ⟨d, ds, rfl, isSolid_of_isBare (isBare_of_isDigit digit)⟩
  | boolean b => cases b <;> exact ⟨_, _, rfl, by decide⟩
  | strings items =>
    match items with
    | [] | [_] | _ :: _ :: _ => exact ⟨_, _, rfl, by decide⟩

def assignmentLine (a : String × Scalar) : List Char :=
  a.1.toList ++ [' ', '=', ' '] ++ a.2.render ++ ['\n']

theorem readStatement_assignment {a : String × Scalar} (key : IsName a.1) (fits : a.2.Fits)
    (rest : List Char) :
    readStatement (assignmentLine a ++ rest) = some (.assignment [a.1] a.2.value, rest) := by
  obtain ⟨name, v⟩ := a
  have line : assignmentLine (name, v) ++ rest =
      joined [name] ++ ' ' :: '=' :: ' ' :: (v.render ++ '\n' :: rest) := by
    simp [assignmentLine, joined_singleton]
  obtain ⟨c, t, shown, bare⟩ := key.head
  have bracket : c ≠ '[' := ne_of_isBare bare (by decide)
  obtain ⟨d, u, start, solid⟩ := render_head fits
  have names : ∀ n ∈ [name], IsName n := List.forall_mem_singleton.mpr key
  have read : readKey (joined [name] ++ ' ' :: '=' :: ' ' :: (v.render ++ '\n' :: rest)) =
      some ([name], '=' :: ' ' :: (v.render ++ '\n' :: rest)) :=
    readKey_joined (List.cons_ne_nil _ _) names (Nat.le_add_left _ 78) (by decide) rfl (by decide)
  have skip : skipSpace (' ' :: (v.render ++ '\n' :: rest)) = v.render ++ '\n' :: rest := by
    rw [start]
    exact skipSpace_solid solid _
  have assigned : readAssignment (readValue depthLimit) (assignmentLine (name, v) ++ rest) =
      some (([name], v.value), '\n' :: rest) := by
    rw [line, readAssignment, read]
    simp only [Option.bind_eq_bind, Option.bind_some, expect, if_pos, skip, depthLimit]
    rw [readValue_render fits]
    rfl
  rw [readStatement, assigned]
  · rfl
  · rw [line, joined_singleton, shown]
    exact fun _ same => bracket (List.cons.inj same).1
  · rw [line, joined_singleton, shown]
    exact fun _ same => bracket (List.cons.inj same).1

theorem readStatement_header (some : path ≠ []) (names : ∀ name ∈ path, IsName name)
    (short : path.length < keyLimit) (rest : List Char) :
    readStatement ('[' :: (joined path ++ ']' :: '\n' :: rest)) = .some (.header path, rest) := by
  have read : readKey (joined path ++ ']' :: '\n' :: rest) = .some (path, ']' :: '\n' :: rest) :=
    readKey_joined some names short (by decide) (skipSpace_solid (by decide) _) (by decide)
  obtain ⟨c, t, shown, bare⟩ := joined_head some names
  rw [readStatement, read]
  · rfl
  · rw [shown]
    exact fun _ same => ne_of_isBare bare (by decide) (List.cons.inj same).1

/-- The statements are read off the text, and what is left is `rest`. -/
def Reads (s : List Char) (statements : List Statement) (rest : List Char) : Prop :=
  ∀ done fuel, s.length < fuel → ∃ fuel', rest.length < fuel' ∧
    readStatements done fuel s = readStatements (statements.reverse ++ done) fuel' rest

theorem Reads.refl (s : List Char) : Reads s [] s := fun _ fuel enough => ⟨fuel, enough, rfl⟩

theorem Reads.trans {first second : List Statement} (hs : Reads s first t)
    (ht : Reads t second rest) : Reads s (first ++ second) rest := by
  intro done fuel enough
  obtain ⟨fuel, enough, before⟩ := hs done fuel enough
  obtain ⟨fuel, enough, after⟩ := ht (first.reverse ++ done) fuel enough
  refine ⟨fuel, enough, ?_⟩
  rw [before, after, List.reverse_append, List.append_assoc]

theorem Reads.newline {statements : List Statement} (h : Reads s statements rest) :
    Reads ('\n' :: s) statements rest := by
  intro done fuel enough
  obtain ⟨fuel', enough', same⟩ := h done fuel (Nat.lt_of_succ_lt enough)
  refine ⟨fuel', enough', ?_⟩
  rw [← same]
  cases fuel <;> rfl

theorem Reads.one {statement : Statement} (solid : IsSolid c)
    (read : readStatement (c :: s) = some (statement, rest)) (shorter : rest.length ≤ s.length) :
    Reads (c :: s) [statement] rest := by
  intro done fuel enough
  obtain ⟨fuel, rfl⟩ := Nat.exists_eq_add_of_le' (Nat.one_le_of_lt enough)
  rw [List.length_cons] at enough
  refine ⟨fuel, by omega, ?_⟩
  have comment : c ≠ '#' := by
    rintro rfl
    revert solid
    decide
  rw [readStatements, skipLines_solid solid]
  split
  · next same => cases same
  · next same => exact absurd (List.cons.inj same).1 comment
  · rw [read]
    rfl

theorem reads_assignment {a : String × Scalar} (key : IsName a.1) (fits : a.2.Fits)
    (rest : List Char) :
    Reads (assignmentLine a ++ rest) [.assignment [a.1] a.2.value] rest := by
  have read := readStatement_assignment key fits rest
  obtain ⟨c, t, shown, bare⟩ := key.head
  have line : assignmentLine a ++ rest =
      c :: (t ++ ([' ', '=', ' '] ++ a.2.render ++ ['\n'] ++ rest)) := by
    simp [assignmentLine, shown]
  rw [line] at read ⊢
  refine .one (isSolid_of_isBare bare) read ?_
  simp only [List.length_append]
  omega

theorem reads_assignments {assignments : List (String × Scalar)}
    (readable : ∀ a ∈ assignments, IsName a.1 ∧ a.2.Fits) (rest : List Char) :
    Reads (assignments.flatMap assignmentLine ++ rest)
      (assignments.map fun a => .assignment [a.1] a.2.value) rest := by
  induction assignments with
  | nil => exact .refl _
  | cons a assignments ih =>
    obtain ⟨first, readable⟩ := List.forall_mem_cons.mp readable
    rw [List.flatMap_cons, List.append_assoc]
    exact (reads_assignment first.1 first.2 _).trans (ih readable)

structure Section.At (t : Section) (path : List String) : Prop where
  name : t.name.toList = joined path
  some : path ≠ []
  names : ∀ name ∈ path, IsName name
  short : path.length < keyLimit
  readable : ∀ a ∈ t.assignments, IsName a.1 ∧ a.2.Fits

def Section.statements (t : Section) (path : List String) : List Statement :=
  .header path :: t.assignments.map fun a => .assignment [a.1] a.2.value

theorem Section.render_eq (t : Section) : t.render =
    '[' :: t.name.toList ++ [']', '\n'] ++ t.assignments.flatMap assignmentLine := rfl

theorem Section.render_append (t : Section) (rest : List Char) : t.render ++ rest =
    '[' :: (t.name.toList ++ ']' :: '\n' :: (t.assignments.flatMap assignmentLine ++ rest)) := by
  rw [t.render_eq]
  simp

theorem Section.At.reads {t : Section} (h : t.At path) (rest : List Char) :
    Reads (t.render ++ rest) (t.statements path) rest := by
  have header := readStatement_header h.some h.names h.short
    (t.assignments.flatMap assignmentLine ++ rest)
  rw [t.render_append, h.name]
  refine Reads.trans (.one (by decide) header ?_) (reads_assignments h.readable rest)
  simp only [List.length_append, List.length_cons]
  omega

def statementsOf (sections : List (Section × List String)) : List Statement :=
  sections.flatMap fun (t, path) => t.statements path

theorem reads_sections {sections : List (Section × List String)}
    (readable : ∀ p ∈ sections, p.1.At p.2) :
    Reads (['\n'].intercalate (sections.map (·.1.render))) (statementsOf sections) [] := by
  match sections with
  | [] => exact .refl _
  | [p] =>
    have one := (readable p List.mem_cons_self).reads []
    simpa [statementsOf] using one
  | p :: next :: sections =>
    obtain ⟨first, readable⟩ := List.forall_mem_cons.mp readable
    rw [List.map_cons, List.map_cons, List.intercalate_cons_cons, List.append_assoc]
    exact (first.reads _).trans (reads_sections readable).newline

theorem readStatements_of_reads {statements : List Statement} (h : Reads s statements []) :
    readStatements [] (s.length + 1) s = some statements := by
  obtain ⟨fuel, enough, same⟩ := h [] (s.length + 1) (Nat.lt_succ_self _)
  obtain ⟨fuel, rfl⟩ := Nat.exists_eq_add_of_lt enough
  rw [same, readStatements]
  simp [skipLines]

theorem read_renderSections {sections : List (Section × List String)}
    (readable : ∀ p ∈ sections, p.1.At p.2) :
    read (renderSections (sections.map Prod.fst)) = tableOf (statementsOf sections) := by
  have all := readStatements_of_reads (reads_sections readable)
  have shown : (renderSections (sections.map Prod.fst)).toList =
      ['\n'].intercalate (sections.map (·.1.render)) := by
    rw [renderSections, String.toList_ofList, List.map_map]
    rfl
  have mark : ∀ u, ['\n'].intercalate (sections.map (·.1.render)) ≠ '\uFEFF' :: u := by
    match sections with
    | [] => nofun
    | [_] | _ :: _ :: _ => exact fun _ same => nomatch (List.cons.inj same).1
  rw [read, shown]
  generalize ['\n'].intercalate (sections.map (·.1.render)) = s at all mark
  split
  · exact absurd rfl (mark _)
  · rw [all]
    rfl

end EventRelay.Toml
