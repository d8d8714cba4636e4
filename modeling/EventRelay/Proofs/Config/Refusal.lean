import EventRelay.Config.Environment
import EventRelay.Proofs.Config.Keys
import EventRelay.Proofs.Text.Number

namespace EventRelay.Config

open Text (Numeral max16 max64)

def flagWords : List String := ["1", "true", "yes", "on", "0", "false", "no", "off"]

/-- Whether a text stands for a value of the kind. Blanks around it and the case do not count. -/
def Kind.Admits : Kind → String → Prop
  | .text, _ | .texts, _ => True
  | .nat max, value => ∃ n ≤ max, Numeral (Text.trim value) n
  | .flag, value => Text.caseless value ∈ flagWords
  | .choice names, value => Text.caseless value ∈ names

theorem admits_nat_iff {max : Nat} {value : String} :
    (Kind.nat max).Admits value ↔ (Text.parseNat? max (Text.trim value)).isSome := by
  simp only [Kind.Admits, Option.isSome_iff_exists, Text.parseNat?_eq_some_iff, and_comm]

instance (k : Kind) (value : String) : Decidable (k.Admits value) :=
  match k with
  | .text | .texts => instDecidableTrue
  | .nat _ => decidable_of_iff _ admits_nat_iff.symm
  | .flag => inferInstanceAs (Decidable (_ ∈ flagWords))
  | .choice names => inferInstanceAs (Decidable (_ ∈ names))

def Kind.refusal? (k : Kind) (name value : String) : Option Failure :=
  if k.Admits value then none else some (.invalidValue name value)

theorem Kind.refusal?_eq {k : Kind} {name value : String} {p : Prop} [Decidable p]
    (h : k.Admits value ↔ p) :
    k.refusal? name value = if p then none else some (.invalidValue name value) :=
  ite_congr (propext h) (fun _ => rfl) fun _ => rfl

/-- A variable for values of a kind. It counts if the variable `beside` is set. -/
structure Typed where
  name : String
  kind : Kind
  beside : String

namespace Typed

def own (name : String) (kind : Kind) : Typed := ⟨name, kind, name⟩

def IsBad (v : Typed) (env : Environment) : Prop :=
  ∃ value, env v.name = some value ∧ ¬ v.kind.Admits value

instance (v : Typed) (env : Environment) : Decidable (v.IsBad env) :=
  decidable_of_iff (∃ value ∈ (env v.name).toList, ¬ v.kind.Admits value) <| by
    simp only [IsBad, Option.mem_toList]

def fault? (v : Typed) (env : Environment) : Option Failure :=
  match env v.beside, env v.name with
  | some _, some value => v.kind.refusal? v.name value
  | _, _ => none

theorem fault?_eq_some_iff {v : Typed} {env : Environment} {f : Failure} :
    v.fault? env = some f ↔ (env v.beside).isSome ∧ ∃ value, env v.name = some value ∧
      ¬ v.kind.Admits value ∧ .invalidValue v.name value = f := by
  unfold fault? Kind.refusal?
  cases env v.beside <;> cases env v.name <;> simp

end Typed

def ownVariables : List Typed :=
  [.own "NF_PORT" (.nat max16), .own "NF_BUFFER_SIZE" (.nat max64),
    .own "NF_READ_TIMEOUT_MS" (.nat max64), .own "NF_CONCURRENT" .flag,
    .own "NF_MAX_LOG_SIZE" (.nat max64), .own "NF_MAX_LOG_LINES" (.nat max64),
    .own "NF_CLEAN_STRATEGY" (.choice ["size", "lines", "count"]),
    .own "NF_DELIVERY" (.choice ["mail", "sound", "webhook", "discord"]),
    .own "NF_ENABLE_MAIL" .flag, .own "NF_SMTP_PORT" (.nat max16),
    .own "NF_SMTP_TLS" (.choice ["wrapper", "ssl", "starttls", "none"]),
    .own "NF_ENABLE_SOUND" .flag, .own "NF_SAY_MESSAGE" .flag]

def clientPorts : List Typed :=
  [⟨"NOTIFICATION_SERVER_PORT", .nat max16, "NOTIFICATION_SERVER_HOST"⟩,
    ⟨"NOTIFICATION_SERVER_BACKUP_PORT", .nat max16, "NOTIFICATION_SERVER_BACKUP_HOST"⟩]

def typedVariables : List Typed := ownVariables ++ clientPorts

def failure? : Outcome α → Option Failure
  | .ok _ => none
  | .error f => some f

def Override.take (o : Override) (env : Environment) (c : Config) : Outcome Config :=
  match env o.name with
  | none => .ok c
  | some value => o.apply env value c

theorem override_cons (env : Environment) (o : Override) (os : List Override) (c : Config) :
    override env (o :: os) c = match o.take env c with
      | .ok c => override env os c
      | .error f => (c, some f) := by
  rw [override, Override.take]
  cases env o.name <;> rfl

theorem failure?_map (f : α → β) (r : Outcome α) : failure? (r.map f) = failure? r := by
  cases r <;> rfl

theorem failure?_bind_ok (f : α → β) (r : Outcome α) :
    failure? (r >>= fun a => .ok (f a)) = failure? r := by
  cases r <;> rfl

/-- Whether the override fails, and how, depends on the variables alone. -/
def Override.FailsAs (o : Override) (fault? : Environment → Option Failure) : Prop :=
  ∀ env c, failure? (o.take env c) = fault? env

section

variable {name : String} {kind : Kind}

theorem failure?_parseNat (max : Nat) (value : String) :
    failure? (parseNat max name value) = (Kind.nat max).refusal? name value := by
  rw [Kind.refusal?_eq admits_nat_iff, parseNat]
  cases Text.parseNat? max (Text.trim value) <;> rfl

theorem isSome_lookup_iff {names : List (String × α)} {word : String} :
    (names.lookup word).isSome ↔ word ∈ names.map Prod.fst := by
  rw [List.lookup_isSome_iff, List.mem_map]
  simp only [beq_iff_eq, eq_comm (a := word)]

theorem failure?_parseChoice {names : List (String × α)}
    (h : ∀ value, kind.Admits value ↔ Text.caseless value ∈ names.map Prod.fst) (value : String) :
    failure? (parseChoice names name value) = kind.refusal? name value := by
  rw [Kind.refusal?_eq ((h value).trans isSome_lookup_iff.symm), parseChoice]
  cases names.lookup (Text.caseless value) <;> rfl

theorem failsAs_own {read : String → Outcome α} {set : α → Config → Config}
    (h : ∀ value, failure? (read value) = kind.refusal? name value) :
    Override.FailsAs ⟨name, fun _ v c => (read v).map (set · c)⟩ (Typed.own name kind).fault? := by
  intro env c
  rw [Override.take, Typed.fault?, Typed.own]
  dsimp only
  cases env name with
  | none => rfl
  | some value => exact (failure?_map _ _).trans (h value)

theorem failsAs_text {set : String → Config → Config} :
    (Override.text name set).FailsAs fun _ => none := by
  intro env c
  rw [Override.take]
  cases env (Override.text name set).name <;> rfl

theorem failsAs_nat {max : Nat} {set : Nat → Config → Config} :
    (Override.nat name max set).FailsAs (Typed.own name (.nat max)).fault? :=
  failsAs_own (failure?_parseNat max)

theorem failsAs_flag {set : Bool → Config → Config} :
    (Override.choice name flagNames set).FailsAs (Typed.own name .flag).fault? :=
  failsAs_own (failure?_parseChoice fun _ => Iff.rfl)

theorem failsAs_choice {names : List (String × α)} {set : α → Config → Config} :
    (Override.choice name names set).FailsAs
      (Typed.own name (.choice (names.map Prod.fst))).fault? :=
  failsAs_own (failure?_parseChoice fun _ => Iff.rfl)

theorem failsAs_host {portName : String} {set : String → Config → Config} :
    (Override.host name portName set).FailsAs
      (Typed.mk portName (.nat max16) name).fault? := by
  intro env c
  rw [Override.take, Override.host, Typed.fault?]
  dsimp only
  cases env name with
  | none => rfl
  | some host =>
    cases env portName with
    | none => rfl
    | some value => exact (failure?_bind_ok _ _).trans (failure?_parseNat max16 value)

end

inductive FailOn : List Override → List Typed → Prop
  | nil : FailOn [] []
  | free {o : Override} {os : List Override} {vs : List Typed}
      (never : o.FailsAs fun _ => none) (rest : FailOn os vs) : FailOn (o :: os) vs
  | typed {o : Override} {os : List Override} {v : Typed} {vs : List Typed}
      (fails : o.FailsAs v.fault?) (rest : FailOn os vs) : FailOn (o :: os) (v :: vs)

theorem FailOn.failure_override {os : List Override} {vs : List Typed} (h : FailOn os vs)
    (env : Environment) (c : Config) :
    (override env os c).2 = vs.findSome? (·.fault? env) := by
  induction h generalizing c with
  | nil => rfl
  | @free o os vs never rest ih =>
    have never := never env c
    rw [override_cons]
    cases taken : o.take env c with
    | ok c' => exact ih c'
    | error f =>
      rw [taken] at never
      cases never
  | @typed o os v vs fails rest ih =>
    rw [override_cons, List.findSome?_cons, ← fails env c]
    cases o.take env c with
    | ok c' => exact ih c'
    | error f => rfl

theorem failOn_overrides : FailOn overrides typedVariables :=
  .free failsAs_text <| .typed failsAs_nat <| .typed failsAs_nat <| .typed failsAs_nat <|
  .typed failsAs_flag <| .free failsAs_text <| .free failsAs_text <| .typed failsAs_nat <|
  .typed failsAs_nat <| .typed failsAs_choice <| .typed failsAs_choice <| .typed failsAs_flag <|
  .free failsAs_text <| .typed failsAs_nat <| .typed failsAs_choice <| .free failsAs_text <|
  .free failsAs_text <| .free failsAs_text <| .free failsAs_text <| .free failsAs_text <|
  .typed failsAs_flag <| .free failsAs_text <| .free failsAs_text <| .typed failsAs_flag <|
  .free failsAs_text <| .typed failsAs_host <| .typed failsAs_host .nil

/--
The first bad value of a variable that counts makes the settings fail; what else they hold does not
matter.
-/
theorem withEnvironment_eq_error_iff {c : Config} {env : Environment} {f : Failure} :
    c.withEnvironment env = .error f ↔ typedVariables.findSome? (·.fault? env) = some f := by
  rw [← failOn_overrides.failure_override env c, withEnvironment, applyEnvironment]
  rcases override env overrides c with ⟨c', _ | e⟩ <;> simp

theorem category_of_withEnvironment {c : Config} {env : Environment} {f : Failure}
    (h : c.withEnvironment env = .error f) : f.category = .config := by
  obtain ⟨v, -, fault⟩ := List.exists_of_findSome?_eq_some (withEnvironment_eq_error_iff.mp h)
  obtain ⟨-, value, -, -, rfl⟩ := Typed.fault?_eq_some_iff.mp fault
  rfl

theorem exists_error_iff (c : Config) (env : Environment) :
    (∃ f, c.withEnvironment env = .error f) ↔
      ∃ v ∈ typedVariables, (env v.beside).isSome ∧ v.IsBad env := by
  constructor
  · rintro ⟨f, failed⟩
    obtain ⟨v, hv, fault⟩ :=
      List.exists_of_findSome?_eq_some (withEnvironment_eq_error_iff.mp failed)
    obtain ⟨counts, value, holds, bad, -⟩ := Typed.fault?_eq_some_iff.mp fault
    exact ⟨v, hv, counts, value, holds, bad⟩
  · rintro ⟨v, hv, counts, value, holds, bad⟩
    have fault : v.fault? env = some (.invalidValue v.name value) :=
      Typed.fault?_eq_some_iff.mpr ⟨counts, value, holds, bad, rfl⟩
    have found : (typedVariables.findSome? (·.fault? env)).isSome :=
      List.findSome?_isSome_iff.mpr ⟨v, hv, by rw [fault]; rfl⟩
    obtain ⟨f, first⟩ := Option.isSome_iff_exists.mp found
    exact ⟨f, withEnvironment_eq_error_iff.mpr first⟩

theorem beside_of_ownVariables : ∀ v ∈ ownVariables, v.beside = v.name := by
  simp [ownVariables, Typed.own]

theorem mem_clientPorts_of_unset {env : Environment} {v : Typed} (hv : v ∈ typedVariables)
    (unset : env v.beside = none) (bad : v.IsBad env) : v ∈ clientPorts := by
  rcases List.mem_append.mp hv with own | port
  · obtain ⟨value, holds, -⟩ := bad
    rw [beside_of_ownVariables v own, holds] at unset
    cases unset
  · exact port

/-- There are bad values, though only of client ports whose hosts are not set. -/
def Overlooked (env : Environment) : Prop :=
  (∃ v ∈ typedVariables, v.IsBad env) ∧
    ∀ v ∈ typedVariables, v.IsBad env → v ∈ clientPorts ∧ env v.beside = none

/--
The settings fail if and only if a variable holds a bad value: that is so in all environments but
those in which each bad value is overlooked. A failure is one of configuration.
-/
theorem refused_iff_bad (c : Config) (env : Environment) :
    (((∃ f, c.withEnvironment env = .error f) ↔ ∃ v ∈ typedVariables, v.IsBad env) ↔
        ¬ Overlooked env) ∧
      ∀ f, c.withEnvironment env = .error f → f.category = .config := by
  refine ⟨?_, fun f => category_of_withEnvironment⟩
  rw [exists_error_iff]
  constructor
  · rintro agree ⟨bad, unset⟩
    obtain ⟨v, hv, counts, bad⟩ := agree.mpr bad
    rw [(unset v hv bad).2] at counts
    cases counts
  · intro seen
    refine ⟨fun ⟨v, hv, _, bad⟩ => ⟨v, hv, bad⟩, fun bad => ?_⟩
    refine Classical.byContradiction fun uncounted => seen ⟨bad, fun v hv bad => ?_⟩
    have unset : env v.beside = none :=
      Option.not_isSome_iff_eq_none.mp fun counts => uncounted ⟨v, hv, counts, bad⟩
    exact ⟨mem_clientPorts_of_unset hv unset bad, unset⟩

def setting (vars : List (String × String)) : Environment := fun name => vars.lookup name

theorem refused_iff_bad_of_backup :
    let env := setting [("NOTIFICATION_SERVER_PORT", "ninety"),
      ("NOTIFICATION_SERVER_BACKUP_HOST", "10.0.0.6"),
      ("NOTIFICATION_SERVER_BACKUP_PORT", "65536")]
    (∃ f, withEnvironment {} env = .error f) ∧
      ∀ f, withEnvironment {} env = .error f → f.category = .config := by
  intro env
  have bad : ∃ v ∈ typedVariables, v.IsBad env := by decide +kernel
  have seen : ¬ Overlooked env := by
    rintro ⟨-, unset⟩
    have port := (unset ⟨"NOTIFICATION_SERVER_BACKUP_PORT", .nat max16,
      "NOTIFICATION_SERVER_BACKUP_HOST"⟩ (by simp [typedVariables, clientPorts])
      (by decide +kernel)).2
    cases port
  obtain ⟨exactly, category⟩ := refused_iff_bad {} env
  exact ⟨(exactly.mpr seen).mpr bad, category⟩

/-- A port that is no number, and that is not looked at, because there is no host. -/
theorem unchecked_port :
    let env := setting [("NOTIFICATION_SERVER_PORT", "ninety")]
    (∃ v ∈ typedVariables, v.IsBad env) ∧ withEnvironment {} env = .ok {} := by
  intro env
  have taken : applyEnvironment {} env = ({}, none) := by decide +kernel
  exact ⟨by decide +kernel, by rw [withEnvironment, taken]⟩

end EventRelay.Config
