import EventRelay.Proofs.Config.Variables

namespace EventRelay

def Environment.only (env : Environment) (names : List String) : Environment := fun name =>
  if name ∈ names then env name else none

namespace Config

variable {env env' : Environment} {o : Override} {v : Variable} {os : List Override}
  {vs : List Variable} {c c' : Config}

inductive Taken (env : Environment) (v : Variable) (c : Config) : Outcome Config → Prop
  | absent (absent : env v.name = none) : Taken env v c (.ok c)
  | set {s : String} {value : Toml.Value} {c' : Config} (there : env v.name = some s)
    (stands : v.reading.value? env c.server.port s = some value)
    (still : v.reading.value? env c'.server.port s = some value)
    (held : ∀ path, c'.held path = if path = v.path then some value else c.held path) :
    Taken env v c (.ok c')
  | bad {f : Failure} (fails : v.FailsWith env c.server.port f) : Taken env v c (.error f)

theorem Override.Follows.taken (h : o.Follows v) (env : Environment) (c : Config) :
    Taken env v c (o.take env c) := by
  rw [take, h.name]
  cases there : env v.name with
  | none => exact .absent there
  | some s =>
    cases stands : v.reading.value? env c.server.port s with
    | none =>
      obtain ⟨f, failed, fails⟩ := h.fails there stands
      simp only [failed]
      exact .bad fails
    | some value =>
      obtain ⟨c', set, still, held⟩ := h.sets stands
      simp only [set]
      exact .set there stands still held

theorem Override.Follows.take_congr (h : o.Follows v) (agree : ∀ n ∈ v.names, env n = env' n) :
    o.take env c = o.take env' c := by
  rw [take, take, h.name, agree v.name List.mem_cons_self]
  cases env' v.name with
  | none => rfl
  | some s => exact h.congr agree

theorem Taken.held (h : Taken env v c (.ok c')) {path : List String}
    (elsewhere : v.path = path → env v.name = none) : c'.held path = c.held path := by
  cases h with
  | absent => rfl
  | set there _ _ held =>
    rw [held, if_neg]
    rintro rfl
    rw [elsewhere rfl] at there
    cases there

theorem Reading.value?_of_port {r : Reading} {s : String} {p p' : Nat}
    (same : ∀ portName, r = .host portName → p = p') : r.value? env p s = r.value? env p' s := by
  cases r with
  | host portName => rw [same portName rfl]
  | _ => rfl

/-- The later variable is about another field, and neither changes how the other is read. -/
def Variable.Apart (v later : Variable) : Prop :=
  v.path ≠ later.path ∧ (v.portName?.isSome → later.path ≠ portPath) ∧
    ∀ n ∈ v.names, n ∉ later.names

instance : DecidableRel Variable.Apart := fun _ _ => inferInstanceAs (Decidable (_ ∧ _ ∧ _))

/-- The settings `c'` are `c` with the fields replaced whose variables are set. -/
structure Overridden (env : Environment) (vs : List Variable) (c c' : Config) : Prop where
  absent : ∀ path, (∀ v ∈ vs, v.path = path → env v.name = none) → c'.held path = c.held path
  present : ∀ v ∈ vs, ∀ s, env v.name = some s → ∃ value,
    v.reading.value? env c'.server.port s = some value ∧ c'.held v.path = some value

theorem port_of_held (same : c'.held portPath = c.held portPath) :
    c'.server.port = c.server.port := by
  rw [held_portPath, held_portPath] at same
  injection same with same
  injection same with same
  exact Int.natCast_inj.mp same

theorem overridden_of_override (follows : List.Forall₂ Override.Follows os vs)
    (apart : vs.Pairwise Variable.Apart) (run : override env os c = (c', none)) :
    Overridden env vs c c' := by
  induction follows generalizing c with
  | nil =>
    cases run
    exact ⟨fun _ _ => rfl, nofun⟩
  | @cons o v os vs follows rest ih =>
    obtain ⟨first, apart⟩ := List.pairwise_cons.mp apart
    have taken := follows.taken env c
    rw [override_cons] at run
    generalize o.take env c = out at taken run
    cases out with
    | error f => cases run
    | ok d =>
      have after := ih apart run
      refine ⟨fun path unset => ?_, List.forall_mem_cons.mpr ⟨fun s there => ?_, after.present⟩⟩
      · rw [after.absent path fun w hw => unset w (List.mem_cons_of_mem _ hw)]
        exact taken.held (unset v List.mem_cons_self)
      · cases taken with
        | absent absent =>
          rw [absent] at there
          cases there
        | @set _ value _ there' _ still held =>
          rw [there] at there'
          cases there'
          refine ⟨value, ?_, ?_⟩
          · rw [← still]
            refine Reading.value?_of_port fun portName host => port_of_held ?_
            refine after.absent _ fun w hw same => absurd same ((first w hw).2.1 ?_)
            simp [Variable.portName?, host]
          · rw [after.absent _ fun w hw same => absurd same.symm (first w hw).1, held, if_pos rfl]

theorem override_of_present (follows : List.Forall₂ Override.Follows os vs)
    (present : ∀ v ∈ vs, ∀ s, env v.name = some s → ∃ value,
      v.reading.value? env c.server.port s = some value ∧ c.held v.path = some value) :
    override env os c = (c, none) := by
  induction follows with
  | nil => rfl
  | @cons o v os vs follows rest ih =>
    obtain ⟨here, present⟩ := List.forall_mem_cons.mp present
    have taken : o.take env c = .ok c := by
      have taken := follows.taken env c
      generalize o.take env c = out at taken
      cases taken with
      | absent => rfl
      | set there stands _ held =>
        obtain ⟨value, stands', here⟩ := here _ there
        rw [stands] at stands'
        cases stands'
        refine congrArg Except.ok (eq_of_held fun path => ?_)
        rw [held]
        split
        · next same => rw [same, here]
        · rfl
      | bad fails =>
        obtain ⟨⟨s, there, bad⟩, -⟩ := fails
        obtain ⟨value, stands, -⟩ := here s there
        rw [bad] at stands
        cases stands
    rw [override_cons, taken]
    exact ih present

theorem override_congr (follows : List.Forall₂ Override.Follows os vs)
    (agree : ∀ v ∈ vs, ∀ n ∈ v.names, env n = env' n) :
    override env os c = override env' os c := by
  induction follows generalizing c with
  | nil => rfl
  | cons follows rest ih =>
    obtain ⟨here, agree⟩ := List.forall_mem_cons.mp agree
    rw [override_cons, override_cons, follows.take_congr here]
    split
    · exact ih agree
    · rfl

theorem override_of_unset (follows : List.Forall₂ Override.Follows os vs)
    (unset : ∀ v ∈ vs, env v.name = none) : override env os c = (c, none) :=
  override_of_present follows fun v hv s there => by
    rw [unset v hv] at there
    cases there

theorem override_eq_some (follows : List.Forall₂ Override.Follows os vs)
    (apart : vs.Pairwise Variable.Apart) {f : Failure} (run : override env os c = (c', some f)) :
    ∃ before v after, vs = before ++ v :: after ∧ v.FailsWith env c'.server.port f ∧
      override (env.only (before.flatMap Variable.names)) os c = (c', none) := by
  induction follows generalizing c with
  | nil => cases run
  | @cons o v os vs follows rest ih =>
    obtain ⟨first, apart⟩ := List.pairwise_cons.mp apart
    have taken := follows.taken env c
    rw [override_cons] at run
    cases out : o.take env c with
    | error g =>
      rw [out] at taken run
      cases run
      cases taken with
      | bad fails =>
        refine ⟨[], v, vs, rfl, fails, override_of_unset (.cons follows rest) fun w _ => ?_⟩
        exact if_neg List.not_mem_nil
    | ok d =>
      rw [out] at run
      obtain ⟨before, w, after, rfl, fails, run⟩ := ih apart run
      refine ⟨v :: before, w, after, rfl, fails, ?_⟩
      have here : o.take (env.only ((v :: before).flatMap Variable.names)) c = .ok d := by
        rw [← out]
        refine follows.take_congr fun n hn => if_pos ?_
        exact List.mem_append_left _ hn
      rw [override_cons, here, ← run]
      -- the names of `v` are let through as well, which no later variable reads
      refine override_congr rest fun u hu n hn => ?_
      have other : n ∉ v.names := fun same => (first u hu).2.2 n same hn
      simp [Environment.only, other]

theorem Overridden.held_of_later {before after : List Variable}
    (apart : (before ++ v :: after).Pairwise Variable.Apart)
    (h : Overridden (env.only (before.flatMap Variable.names)) (before ++ v :: after) c c') :
    ∀ w ∈ v :: after, c'.held w.path = c.held w.path := by
  intro w hw
  obtain ⟨-, -, apart⟩ := List.pairwise_append.mp apart
  refine h.absent _ fun u hu same => ?_
  rcases List.mem_append.mp hu with earlier | later
  · exact absurd same (apart u earlier w hw).1
  · refine if_neg fun named => ?_
    obtain ⟨x, hx, named⟩ := List.mem_flatMap.mp named
    exact (apart x hx u later).2.2 _ named List.mem_cons_self

theorem apart_knownVariables : knownVariables.Pairwise Variable.Apart := by decide +kernel

theorem Overridden.held (h : Overridden env knownVariables c c') (hv : v ∈ knownVariables) :
    c'.held v.path =
      (env v.name).elim (c.held v.path) (v.reading.value? env c'.server.port) := by
  have distinct : (knownVariables.map Variable.path).Nodup :=
    List.pairwise_map.mpr (apart_knownVariables.imp And.left)
  cases there : env v.name with
  | none =>
    refine h.absent _ fun u hu same => ?_
    rw [List.inj_on_of_nodup_map distinct hu hv same, there]
  | some s =>
    obtain ⟨value, stands, holds⟩ := h.present v hv s there
    rw [holds, Option.elim_some, stands]

/--
If no variable is bad, each that is set replaces its own field by what its text stands for, all
other fields are kept, and a second time nothing changes. Otherwise there is a first bad variable,
and the settings are those that the variables before it make by themselves; its own field and those
of the variables after it are kept.
-/
theorem applyEnvironment_framed (c : Config) (env : Environment) :
    (∀ c', c.applyEnvironment env = (c', none) →
      Overridden env knownVariables c c' ∧ c'.applyEnvironment env = (c', none)) ∧
    ∀ c' f, c.applyEnvironment env = (c', some f) →
      ∃ before v after, knownVariables = before ++ v :: after ∧
        v.FailsWith env c'.server.port f ∧
        c.applyEnvironment (env.only (before.flatMap Variable.names)) = (c', none) ∧
        ∀ w ∈ v :: after, c'.held w.path = c.held w.path := by
  refine ⟨fun c' run => ?_, fun c' f run => ?_⟩
  · have overridden := overridden_of_override follows_overrides apart_knownVariables run
    exact ⟨overridden, override_of_present follows_overrides overridden.present⟩
  · obtain ⟨before, v, after, split, fails, run⟩ :=
      override_eq_some follows_overrides apart_knownVariables run
    refine ⟨before, v, after, split, fails, run, ?_⟩
    have overridden := overridden_of_override follows_overrides apart_knownVariables run
    rw [split] at overridden
    exact overridden.held_of_later (split ▸ apart_knownVariables)

theorem applyEnvironment_framed_of_hosts :
    let env := setting [("NF_PORT", " +9200 "), ("NOTIFICATION_SERVER_HOST", "10.0.0.5"),
      ("NOTIFICATION_SERVER_BACKUP_HOST", "10.0.0.6"), ("NOTIFICATION_SERVER_BACKUP_PORT", "9500")]
    let c : Config := { server.port := 9200
                        client.primary := some "10.0.0.5:9200"
                        client.backup := some "10.0.0.6:9500" }
    let bad := setting [("NF_PORT", "9200"), ("NF_CONCURRENT", "maybe"), ("NF_SMTP_HOST", "mx")]
    let f : Failure := .invalidValue "NF_CONCURRENT" "maybe"
    applyEnvironment {} env = (c, none) ∧ Overridden env knownVariables {} c ∧
      c.applyEnvironment env = (c, none) ∧
      applyEnvironment {} bad = ({ server.port := 9200 }, some f) ∧
      ∃ before v after, knownVariables = before ++ v :: after ∧ v.FailsWith bad 9200 f ∧
        applyEnvironment {} (bad.only (before.flatMap Variable.names)) =
          ({ server.port := 9200 }, none) := by
  intro env c bad f
  have run : applyEnvironment {} env = (c, none) := by decide +kernel
  have failed : applyEnvironment {} bad = ({ server.port := 9200 }, some f) := by decide +kernel
  obtain ⟨overridden, again⟩ := (applyEnvironment_framed {} env).1 c run
  obtain ⟨before, v, after, split, fails, alone, -⟩ :=
    (applyEnvironment_framed {} bad).2 _ f failed
  exact ⟨run, overridden, again, failed, before, v, after, split, fails, alone⟩

end Config

end EventRelay
