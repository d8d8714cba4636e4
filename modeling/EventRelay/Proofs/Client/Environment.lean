import EventRelay.Client
import EventRelay.Proofs.Config.Environment
import EventRelay.Proofs.Text.Blank
import EventRelay.Proofs.Text.Number

namespace EventRelay

open Config (Typed Key Overridden knownVariables typedVariables ownVariables clientPorts setting)
open Text (max16)

variable {env env' : Environment} {c : Config}

namespace RelayClient

def serverPort? (env : Environment) : Option Nat :=
  (env "NF_PORT").elim (some ({} : ServerConfig).port) fun s => Text.parseNat? max16 (Text.trim s)

def address? (env : Environment) (serverPort : Nat) (v : Typed) : Option String :=
  (env v.beside).bind fun host =>
    ((env v.name).elim (some serverPort) fun s => Text.parseNat? max16 (Text.trim s)).map
      fun port => s!"{host}:{port}"

def primaryPort : Typed := ⟨"NOTIFICATION_SERVER_PORT", .nat max16, "NOTIFICATION_SERVER_HOST"⟩

def backupPort : Typed :=
  ⟨"NOTIFICATION_SERVER_BACKUP_PORT", .nat max16, "NOTIFICATION_SERVER_BACKUP_HOST"⟩

theorem clientPorts_eq : clientPorts = [primaryPort, backupPort] := rfl

def settings (env : Environment) (serverPort : Nat) : ClientConfig :=
  { primary := address? env serverPort primaryPort, backup := address? env serverPort backupPort }

theorem serverPort?_of_overridden (h : Overridden env knownVariables {} c) :
    serverPort? env = some c.server.port := by
  have held := h.held (v := ⟨"NF_PORT", Config.portPath, .nat max16⟩)
    (by simp [knownVariables, Config.portPath])
  rw [Config.held_portPath, Config.held_portPath] at held
  rw [serverPort?]
  dsimp only at held
  cases there : env "NF_PORT" with
  | none =>
    rw [there] at held
    have same := Toml.Value.integer.inj (Option.some.inj held)
    exact congrArg some (Int.natCast_inj.mp same).symm
  | some s =>
    rw [there] at held
    obtain ⟨n, read, same⟩ := Option.map_eq_some_iff.mp held.symm
    rw [Option.elim_some, read, Int.natCast_inj.mp (Toml.Value.integer.inj same)]

theorem content_client {k : Key ClientConfig} (hk : k ∈ Config.clientKeys) (c : Config) :
    k.content c.client = c.held ("client" :: k.path) :=
  (Config.held_path c (k := k.under "client" (·.client))
    ((Config.forall_mem_keys.mp fun _ h => h).2.2.2.2 _ (List.mem_map_of_mem hk))).symm

theorem client_of_overridden (h : Overridden env knownVariables {} c) :
    c.client = settings env c.server.port := by
  have given {path : String} {v : Typed}
      (known : ⟨v.beside, ["client", path], .host v.name⟩ ∈ knownVariables)
      (empty : ({} : Config).held ["client", path] = none) :
      c.held ["client", path] = (address? env c.server.port v).map .string := by
    rw [h.held known, empty, address?]
    cases env v.beside with
    | none => rfl
    | some host => exact (Option.map_map ..).symm
  have kept {k : Key ClientConfig} (hk : k ∈ Config.clientKeys)
      (free : ∀ v ∈ knownVariables, v.path ≠ "client" :: k.path) :
      k.content c.client = k.content ({} : Config).client := by
    rw [content_client hk, content_client hk]
    exact h.absent _ fun v hv same => absurd same (free v hv)
  apply Config.determine_client
  intro k hk
  have there := hk
  simp only [Config.clientKeys, List.mem_cons, List.not_mem_nil, or_false] at hk
  rcases hk with rfl | rfl | rfl | rfl | rfl | rfl
  · rw [content_client there]
    exact given (v := primaryPort) (by simp [knownVariables, primaryPort]) (by rfl)
  · rw [content_client there]
    exact given (v := backupPort) (by simp [knownVariables, backupPort]) (by rfl)
  all_goals exact kept there (by decide +kernel)

theorem ofEnvironment_eq_error_iff {f : Failure} : ofEnvironment env = .error f ↔
    typedVariables.findSome? (·.fault? env) = some f := by
  rw [← Config.withEnvironment_eq_error_iff (c := {}), ofEnvironment]
  cases ({} : Config).withEnvironment env <;> simp [Except.map]

theorem exists_port_of_good (good : typedVariables.findSome? (·.fault? env) = none) :
    ∃ port, serverPort? env = some port ∧
      ofEnvironment env = .ok (ofConfig (settings env port)) := by
  cases run : ({} : Config).withEnvironment env with
  | error f =>
    rw [Config.withEnvironment_eq_error_iff, good] at run
    cases run
  | ok c =>
    have applied : ({} : Config).applyEnvironment env = (c, none) := by
      rw [Config.withEnvironment] at run
      split at run <;> cases run
      assumption
    have overridden := Config.overridden_of_override Config.follows_overrides
      Config.apart_knownVariables applied
    refine ⟨c.server.port, serverPort?_of_overridden overridden, ?_⟩
    rw [ofEnvironment, run, ← client_of_overridden overridden]
    rfl

theorem faults_of_eq (same : ofEnvironment env = ofEnvironment env') :
    typedVariables.findSome? (·.fault? env) = typedVariables.findSome? (·.fault? env') := by
  refine Option.ext fun f => ?_
  rw [← ofEnvironment_eq_error_iff, same, ofEnvironment_eq_error_iff]

def clientVariables : List String :=
  ["NOTIFICATION_SERVER_HOST", "NOTIFICATION_SERVER_PORT", "NOTIFICATION_SERVER_BACKUP_HOST",
    "NOTIFICATION_SERVER_BACKUP_PORT"]

theorem usable_address (host : String) (port : Nat) : usable (some s!"{host}:{port}") =
    some (.ofList (Text.trimStart host.toList ++ ':' :: Nat.toDigits 10 port)) := by
  have shown : (s!"{host}:{port}").toList = host.toList ++ ':' :: Nat.toDigits 10 port := by
    simp
    rfl
  have solid : ∀ c ∈ ':' :: Nat.toDigits 10 port, Text.isBlank c = false := by
    intro c hc
    rcases List.mem_cons.mp hc with rfl | digit
    · decide
    · exact Text.isBlank_of_isDigit (Text.isDigit_of_mem_toDigits digit)
  rw [usable, Option.map_some, Text.trim, shown,
    Text.trimList_append_of_forall solid (List.cons_ne_nil _ _)]
  refine Option.filter_eq_some_iff.mpr ⟨rfl, ?_⟩
  simp

theorem usable_address_inj {host : String} {port other : Nat}
    (same : usable (some s!"{host}:{port}") = usable (some s!"{host}:{other}")) : port = other := by
  rw [usable_address, usable_address, Option.some_inj, String.ofList_inj,
    List.append_cancel_left_eq, List.cons.injEq] at same
  have value := congrArg (Nat.ofDigitChars 10 · 0) same.2
  simpa only [Nat.ofDigitChars_ten_toDigits] using value

theorem address?_congr {v : Typed} {port port' : Nat} (host : env v.beside = env' v.beside)
    (own : env v.name = env' v.name)
    (ports : (env v.beside).isSome → env v.name = none → port = port') :
    address? env port v = address? env' port' v := by
  rw [address?, address?, ← host, ← own]
  cases there : env v.beside with
  | none => rfl
  | some host =>
    cases given : env v.name with
    | none => rw [ports (by rw [there]; rfl) given]
    | some s => rfl

theorem port_of_ofConfig_eq {port port' : Nat}
    (same : ofConfig (settings env port) = ofConfig (settings env' port')) {v : Typed}
    (hv : v ∈ clientPorts) (set : (env v.beside).isSome) (unset : env v.name = none)
    (agree : env v.beside = env' v.beside ∧ env v.name = env' v.name) : port = port' := by
  have shown : usable (address? env port v) = usable (address? env' port' v) := by
    rw [clientPorts_eq] at hv
    simp only [List.mem_cons, List.not_mem_nil, or_false] at hv
    rcases hv with rfl | rfl
    · exact congrArg RelayClient.primary same
    · exact congrArg RelayClient.backup same
  obtain ⟨host, there⟩ := Option.isSome_iff_exists.mp set
  rw [address?, address?, ← agree.1, ← agree.2, there, unset] at shown
  exact usable_address_inj shown

/-- What the client takes from the variables that are not its own. -/
structure Alike (env env' : Environment) : Prop where
  faults : ownVariables.findSome? (·.fault? env) = ownVariables.findSome? (·.fault? env')
  ports : typedVariables.findSome? (·.fault? env) = none → ∀ v ∈ clientPorts,
    (env v.beside).isSome → env v.name = none → serverPort? env = serverPort? env'

theorem own_ne_port {f g : Failure} (own : ownVariables.findSome? (·.fault? env) = some f)
    (port : clientPorts.findSome? (·.fault? env') = some g) : f ≠ g := by
  have distinct : ∀ v ∈ ownVariables, ∀ w ∈ clientPorts, w.name ≠ v.name := by decide +kernel
  rintro rfl
  obtain ⟨v, hv, fault⟩ := List.exists_of_findSome?_eq_some own
  obtain ⟨w, hw, fault'⟩ := List.exists_of_findSome?_eq_some port
  obtain ⟨-, s, -, -, rfl⟩ := Config.Typed.fault?_eq_some_iff.mp fault
  obtain ⟨-, t, -, -, same⟩ := Config.Typed.fault?_eq_some_iff.mp fault'
  injection same with same
  exact distinct v hv w hw same

theorem own_faults_eq {e : Option Failure}
    (same : (ownVariables.findSome? (·.fault? env)).or e =
      (ownVariables.findSome? (·.fault? env')).or e)
    (ports : ∀ {env f g}, ownVariables.findSome? (·.fault? env) = some f → e = some g → f ≠ g) :
    ownVariables.findSome? (·.fault? env) = ownVariables.findSome? (·.fault? env') := by
  cases first : ownVariables.findSome? (·.fault? env) with
  | some f =>
    cases second : ownVariables.findSome? (·.fault? env') with
    | some g => simpa [first, second] using same
    | none =>
      rw [first, second] at same
      exact absurd rfl (ports first same.symm)
  | none =>
    cases second : ownVariables.findSome? (·.fault? env') with
    | some g =>
      rw [first, second] at same
      exact absurd rfl (ports second same)
    | none => rfl

theorem ports_agree (agree : ∀ n ∈ clientVariables, env n = env' n) {v : Typed}
    (hv : v ∈ clientPorts) : env v.beside = env' v.beside ∧ env v.name = env' v.name := by
  have named : ∀ v ∈ clientPorts, v.beside ∈ clientVariables ∧ v.name ∈ clientVariables := by
    decide +kernel
  exact ⟨agree _ (named v hv).1, agree _ (named v hv).2⟩

/--
Two environments in which the client has the same variables set it up alike if and only if their
other variables are bad alike and give the server, where the client needs it, the same port.
-/
theorem ofEnvironment_eq_iff (agree : ∀ n ∈ clientVariables, env n = env' n) :
    ofEnvironment env = ofEnvironment env' ↔ Alike env env' := by
  have ports : clientPorts.findSome? (·.fault? env) = clientPorts.findSome? (·.fault? env') := by
    have each : clientPorts.map (·.fault? env) = clientPorts.map (·.fault? env') := by
      refine List.map_congr_left fun v hv => ?_
      obtain ⟨host, own⟩ := ports_agree agree hv
      rw [Typed.fault?, Typed.fault?, host, own]
    simpa only [List.findSome?_map, Function.id_comp] using congrArg (List.findSome? id) each
  have split (env : Environment) : typedVariables.findSome? (·.fault? env) =
      (ownVariables.findSome? (·.fault? env)).or (clientPorts.findSome? (·.fault? env)) :=
    List.findSome?_append
  constructor
  · intro same
    have faults := faults_of_eq same
    refine ⟨own_faults_eq (by rw [← ports, ← split, faults, split, ports]) own_ne_port, ?_⟩
    intro good v hv set unset
    obtain ⟨port, here, made⟩ := exists_port_of_good good
    obtain ⟨port', here', made'⟩ := exists_port_of_good (faults ▸ good)
    rw [made, made', Except.ok.injEq] at same
    rw [here, here', port_of_ofConfig_eq same hv set unset (ports_agree agree hv)]
  · intro alike
    have faults : typedVariables.findSome? (·.fault? env) =
        typedVariables.findSome? (·.fault? env') := by
      rw [split, split, alike.faults, ports]
    cases first : typedVariables.findSome? (·.fault? env) with
    | some f =>
      rw [ofEnvironment_eq_error_iff.mpr first, ofEnvironment_eq_error_iff.mpr (faults ▸ first)]
    | none =>
      obtain ⟨port, here, made⟩ := exists_port_of_good first
      obtain ⟨port', here', made'⟩ := exists_port_of_good (faults ▸ first)
      have address {v : Typed} (hv : v ∈ clientPorts) :
          address? env port v = address? env' port' v := by
        obtain ⟨host, own⟩ := ports_agree agree hv
        refine address?_congr host own fun set unset => ?_
        have same := alike.ports first v hv set unset
        rw [here, here'] at same
        exact Option.some_inj.mp same
      rw [made, made', settings, settings, address (by simp [clientPorts_eq]),
        address (by simp [clientPorts_eq])]

theorem ofEnvironment_eq_iff_of_ports :
    let env := setting [("NOTIFICATION_SERVER_HOST", "10.0.0.5"),
      ("NOTIFICATION_SERVER_PORT", "9500"), ("NF_PORT", "9200")]
    let env' := setting [("NOTIFICATION_SERVER_HOST", "10.0.0.5"),
      ("NOTIFICATION_SERVER_PORT", "9500"), ("NF_LOG_FILE", "relay.log"), ("NF_CONCURRENT", "on")]
    (∀ n ∈ clientVariables, env n = env' n) ∧ Alike env env' ∧
      ofEnvironment env = ofEnvironment env' := by
  intro env env'
  have agree : ∀ n ∈ clientVariables, env n = env' n := by decide +kernel
  have alike : Alike env env' := ⟨by decide +kernel, by decide +kernel⟩
  exact ⟨agree, alike, (ofEnvironment_eq_iff agree).mpr alike⟩

/-- A size of the log and a port of the server, which the client is not to be set up by. -/
theorem set_up_by_other_variables :
    let env := setting [("NOTIFICATION_SERVER_HOST", "h")]
    let sized := setting [("NOTIFICATION_SERVER_HOST", "h"), ("NF_MAX_LOG_SIZE", "huge")]
    let moved := setting [("NOTIFICATION_SERVER_HOST", "h"), ("NF_PORT", "6")]
    (∀ n ∈ clientVariables, env n = sized n ∧ env n = moved n) ∧
      ofEnvironment env = .ok (ofConfig { primary := some "h:9123" }) ∧
      ofEnvironment sized = .error (.invalidValue "NF_MAX_LOG_SIZE" "huge") ∧
      ofEnvironment moved = .ok (ofConfig { primary := some "h:6" }) := by
  decide +kernel

end RelayClient

end EventRelay
