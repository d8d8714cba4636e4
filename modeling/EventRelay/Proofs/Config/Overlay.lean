import EventRelay.Config.Storage
import EventRelay.Proofs.Config.Fields
import EventRelay.Proofs.Files.Storage
import EventRelay.Proofs.Toml.Statements

namespace EventRelay.Config

open Toml (Value)

theorem obeys_server : ∀ f ∈ serverFields, f.Obeys serverKeys fun _ => {} := by
  simp only [serverFields, List.forall_mem_cons]
  refine ⟨obeys_text ?_ _, obeys_nat ?_ _, obeys_nat ?_ _, obeys_nat ?_ _, obeys_nat ?_ _,
    obeys_flag ?_ _, obeys_nat ?_ _, List.forall_mem_nil _⟩ <;>
    constructor <;> simp [serverKeys]

theorem obeys_log : ∀ f ∈ logFields, f.Obeys logKeys fun _ => {} := by
  simp only [logFields, List.forall_mem_cons]
  refine ⟨obeys_path ?_ _,
    obeys_choice (by decide : ∀ p ∈ rotationNames, rotationName p.2 = p.1) ?_ _,
    obeys_nat ?_ _, obeys_nat ?_ _, List.forall_mem_nil _⟩ <;>
    constructor <;> simp [logKeys, rotationNames]

theorem obeys_smtp : ∀ f ∈ smtpFields, f.Obeys smtpKeys fun _ => {} := by
  simp only [smtpFields, List.forall_mem_cons]
  refine ⟨obeys_text ?_ _, obeys_nat ?_ _,
    obeys_choice (by decide : ∀ p ∈ tlsNames, tlsName p.2 = p.1) ?_ _, obeys_text ?_ _,
    obeys_optional ?_ _, List.forall_mem_nil _⟩ <;>
    constructor <;> simp [smtpKeys, tlsNames]

theorem obeys_sound : ∀ f ∈ soundFields, f.Obeys soundKeys fun _ => {} := by
  simp only [soundFields, List.forall_mem_cons]
  refine ⟨obeys_flag ?_ _, obeys_path ?_ _, obeys_text ?_ _, obeys_flag ?_ _, obeys_text ?_ _,
    List.forall_mem_nil _⟩ <;>
    constructor <;> simp [soundKeys]

theorem obeys_webhook : ∀ f ∈ webhookFields, f.Obeys webhookKeys fun _ => {} := by
  simp only [webhookFields, List.forall_mem_cons]
  refine ⟨obeys_optional ?_ _, obeys_nat ?_ _, List.forall_mem_nil _⟩ <;>
    constructor <;> simp [webhookKeys]

theorem obeys_daemon : ∀ f ∈ daemonFields, f.Obeys daemonKeys fun _ => {} := by
  simp only [daemonFields, List.forall_mem_cons]
  refine ⟨obeys_path ?_ _, obeys_text ?_ _, obeys_optional ?_ _, obeys_path ?_ _,
    List.forall_mem_nil _⟩ <;>
    constructor <;> simp [daemonKeys]

theorem obeys_client : ∀ f ∈ clientFields, f.Obeys clientKeys fun _ => {} := by
  simp only [clientFields, List.forall_mem_cons]
  refine ⟨obeys_optional ?_ _, obeys_optional ?_ _, obeys_nat ?_ _, obeys_nat ?_ _,
    obeys_nat ?_ _, obeys_flag ?_ _, List.forall_mem_nil _⟩ <;>
    constructor <;> simp [clientKeys]

section Tables

variable {σ : Type} {ks : List (Key σ)} {fields : List (Field σ)} {default : σ} {base : Value → σ}

theorem overlays_flat (obeys : ∀ f ∈ fields, f.Obeys ks fun _ => default)
    (known : ∀ k ∈ ks, ∃ f ∈ fields, f.key = k.name) (full : ks ≠ []) :
    Overlays ks (fun _ => default) (readFields fields default) := by
  refine overlays_readFields obeys known full fun entries k _ => ?_
  split <;> rfl

/-- What the keys of a table fall back to: to `base` if the section `name` is there. -/
def groundOf (name : String) (base : Value → σ) (default : σ) (v : Value) : σ :=
  match at? [name] v with
  | some w => base w
  | none => default

theorem overlays_nested {name : String} (obeys : ∀ f ∈ fields, f.Obeys ks base)
    (known : ∀ k ∈ ks, ∃ f ∈ fields, f.key = k.name) (full : ks ≠ [])
    (blind : ∀ k ∈ ks, k.name = name ∨ ∀ v, k.content (base v) = k.content default) :
    Overlays ks (groundOf name base default) (readFields fields default) := by
  refine overlays_readFields obeys known full fun entries k hk => ?_
  rw [groundOf, at?]
  rcases blind k hk with rfl | same
  · cases entries.reverse.lookup k.name <;> rfl
  · cases entries.reverse.lookup name <;> cases entries.reverse.lookup k.name <;>
      simp [at?, same]

end Tables

theorem overlays_server : Overlays serverKeys (fun _ => {}) (readFields serverFields {}) :=
  overlays_flat obeys_server (by decide) (List.cons_ne_nil _ _)

theorem overlays_log : Overlays logKeys (fun _ => {}) (readFields logFields {}) :=
  overlays_flat obeys_log (by decide) (List.cons_ne_nil _ _)

theorem overlays_smtp : Overlays smtpKeys (fun _ => {}) (readFields smtpFields {}) :=
  overlays_flat obeys_smtp (by decide) (List.cons_ne_nil _ _)

theorem overlays_sound : Overlays soundKeys (fun _ => {}) (readFields soundFields {}) :=
  overlays_flat obeys_sound (by decide) (List.cons_ne_nil _ _)

theorem overlays_webhook : Overlays webhookKeys (fun _ => {}) (readFields webhookFields {}) :=
  overlays_flat obeys_webhook (by decide) (List.cons_ne_nil _ _)

theorem overlays_daemon : Overlays daemonKeys (fun _ => {}) (readFields daemonFields {}) :=
  overlays_flat obeys_daemon (by decide) (List.cons_ne_nil _ _)

theorem overlays_client : Overlays clientKeys (fun _ => {}) (readFields clientFields {}) :=
  overlays_flat obeys_client (by decide) (List.cons_ne_nil _ _)

def mailGround : Value → MailConfig := groundOf "smtp" (fun _ => { smtp := {} }) {}

def deliveryGround : Value → DeliveryConfig :=
  groundOf "mail" (fun v => { mail := mailGround v }) {}

def ground : Value → Config := groundOf "delivery" (fun v => { delivery := deliveryGround v }) {}

theorem obeys_mail : ∀ f ∈ mailFields, f.Obeys mailKeys fun _ => { smtp := {} } := by
  have smtp : (tableField "smtp" (readFields smtpFields {})
      fun v (s : MailConfig) => { s with smtp := v }).Obeys mailKeys fun _ => { smtp := {} } := by
    refine overlays_smtp.obeys (·.smtp) ?_ ?_ (fun _ _ => rfl) fun _ => rfl
    · exact fun k hk => List.mem_append_right _ hk
    · exact List.forall_mem_append.mpr ⟨by simp, fun k hk => .inl hk⟩
  simp only [mailFields, List.forall_mem_cons]
  refine ⟨obeys_flag ?_ _, obeys_text ?_ _, obeys_texts ?_ _, smtp, obeys_text ?_ _,
    obeys_texts ?_ _, List.forall_mem_nil _⟩ <;>
    constructor <;> simp [mailKeys, smtpKeys]

theorem overlays_mail : Overlays mailKeys mailGround (readFields mailFields {}) :=
  overlays_nested obeys_mail (by decide) (List.cons_ne_nil _ _) <|
    List.forall_mem_append.mpr ⟨by simp, List.forall_mem_map.mpr fun k hk => .inl rfl⟩

theorem obeys_delivery :
    ∀ f ∈ deliveryFields, f.Obeys deliveryKeys fun v => { mail := mailGround v } := by
  obtain ⟨-, mail, sound, webhook⟩ :=
    forall_mem_deliveryKeys.mp fun k (hk : k ∈ deliveryKeys) => hk
  have sink : Governs deliveryKeys "sink" (.choice (sinkNames.map Prod.fst))
      (fun v (s : DeliveryConfig) => { s with sink := v }) fun a => .string (sinkName a) := by
    constructor <;> simp [deliveryKeys, sinkNames, or_imp, forall_and]
  simp only [deliveryFields, List.forall_mem_cons]
  refine ⟨obeys_choice (by decide) sink _,
    overlays_mail.obeys (·.mail) mail ?_ (fun _ _ => rfl) fun _ => rfl,
    overlays_sound.obeys (·.sound) sound ?_ (fun _ _ => rfl) fun _ => rfl,
    overlays_webhook.obeys (·.webhook) webhook ?_ (fun _ _ => rfl) fun _ => rfl,
    List.forall_mem_nil _⟩
  all_goals
    refine forall_mem_deliveryKeys.mpr ⟨.inr ⟨by decide, fun _ _ => rfl⟩, ?_, ?_, ?_⟩
    all_goals first
      | exact fun _ hk => .inl hk
      | exact elsewhere (by decide) fun _ _ => rfl

theorem overlays_delivery :
    Overlays deliveryKeys deliveryGround (readFields deliveryFields {}) := by
  refine overlays_nested obeys_delivery (by decide) (List.cons_ne_nil _ _) ?_
  refine forall_mem_deliveryKeys.mpr ⟨.inr fun _ => rfl, ?_⟩
  simp only [List.forall_mem_map]
  exact ⟨fun _ _ => .inl rfl, fun _ _ => .inr fun _ => rfl, fun _ _ => .inr fun _ => rfl⟩

theorem obeys_config : ∀ f ∈ fields, f.Obeys keys fun v => { delivery := deliveryGround v } := by
  obtain ⟨server, log, delivery, daemon, client⟩ :=
    forall_mem_keys.mp fun k (hk : k ∈ keys) => hk
  simp only [fields, List.forall_mem_cons]
  refine ⟨overlays_server.obeys (·.server) server ?_ (fun _ _ => rfl) fun _ => rfl,
    overlays_log.obeys (·.log) log ?_ (fun _ _ => rfl) fun _ => rfl,
    overlays_delivery.obeys (·.delivery) delivery ?_ (fun _ _ => rfl) fun _ => rfl,
    overlays_daemon.obeys (·.daemon) daemon ?_ (fun _ _ => rfl) fun _ => rfl,
    overlays_client.obeys (·.client) client ?_ (fun _ _ => rfl) fun _ => rfl,
    List.forall_mem_nil _⟩
  -- each section has its own keys, and setting it touches none of the others
  all_goals
    refine forall_mem_keys.mpr ⟨?_, ?_, ?_, ?_, ?_⟩
    all_goals first
      | exact fun _ hk => .inl hk
      | exact elsewhere (by decide) fun _ _ => rfl

theorem overlays_config : Overlays keys ground (readFields fields {}) := by
  refine overlays_nested obeys_config (by decide) (List.cons_ne_nil _ _) (forall_mem_keys.mpr ?_)
  simp only [List.forall_mem_map]
  exact ⟨fun _ _ => .inr fun _ => rfl, fun _ _ => .inr fun _ => rfl, fun _ _ => .inl rfl,
    fun _ _ => .inr fun _ => rfl, fun _ _ => .inr fun _ => rfl⟩

theorem FitsAt.isSome {kind : Kind} {path : List String} {v w : Value} (fits : FitsAt kind path v)
    (there : at? path v = some w) : (kind.content? w).isSome := by
  induction path generalizing v with
  | nil =>
    cases there
    exact fits
  | cons name path ih =>
    obtain ⟨entries, rfl, below⟩ := fitsAt_cons.mp fits
    obtain ⟨u, found, there⟩ := Option.bind_eq_some_iff.mp there
    refine ih (below u ?_) there
    obtain ⟨before, after, split, -⟩ := List.lookup_eq_some_iff.mp found
    rw [← List.mem_reverse, split]
    exact List.mem_append_right _ List.mem_cons_self

def smtpPath : List String := ["delivery", "mail", "smtp"]

theorem at?_cons (name : String) (path : List String) (v : Value) :
    at? (name :: path) v = (at? [name] v).bind (at? path) := by
  cases v with
  | table entries =>
    rw [at?, at?]
    cases entries.reverse.lookup name <;> rfl
  | _ => rfl

theorem ground_of_none {v : Value} (none : at? smtpPath v = none) : ground v = {} := by
  rw [smtpPath, at?_cons] at none
  rw [ground, groundOf]
  cases hd : at? ["delivery"] v with
  | none => rfl
  | some d =>
    rw [hd, Option.bind_some, at?_cons] at none
    dsimp only
    rw [deliveryGround, groundOf]
    cases hm : at? ["mail"] d with
    | none => rfl
    | some m =>
      rw [hm, Option.bind_some] at none
      dsimp only
      rw [mailGround, groundOf, none]

theorem ground_of_some {v w : Value} (there : at? smtpPath v = some w) :
    ground v = { delivery := { mail := { smtp := {} } } } := by
  rw [smtpPath, at?_cons, Option.bind_eq_some_iff] at there
  obtain ⟨d, hd, there⟩ := there
  rw [at?_cons, Option.bind_eq_some_iff] at there
  obtain ⟨m, hm, there⟩ := there
  rw [ground, groundOf, hd]
  dsimp only
  rw [deliveryGround, groundOf, hm]
  dsimp only
  rw [mailGround, groundOf, there]

theorem content_without_server : ∀ k ∈ keys,
    k.path = smtpPath ++ ["host"] ∨ k.path = smtpPath ++ ["port"] ∨
      k.content { delivery := { mail := { smtp := {} } } } = k.content {} := by
  have elsewhere {τ : Type} {ks : List (Key τ)} {name : String} {get : Config → τ}
      (same : get { delivery := { mail := { smtp := {} } } } = get {}) :
      ∀ k ∈ ks.map (Key.under name get), k.path = smtpPath ++ ["host"] ∨
        k.path = smtpPath ++ ["port"] ∨
          k.content { delivery := { mail := { smtp := {} } } } = k.content {} :=
    List.forall_mem_map.mpr fun k _ => .inr (.inr (congrArg k.content same))
  refine forall_mem_keys.mpr ⟨elsewhere rfl, elsewhere rfl, ?_, elsewhere rfl, elsewhere rfl⟩
  simp only [List.forall_mem_map, deliveryKeys, List.forall_mem_cons, List.forall_mem_append]
  refine ⟨.inr (.inr rfl), ⟨?_, fun _ _ => .inr (.inr rfl)⟩, fun _ _ => .inr (.inr rfl)⟩
  simp [mailKeys, smtpKeys, smtpPath, Key.path]

/-- The settings are the default ones, with those replaced that the table gives. -/
def Replaces (t : Toml.Table) (c : Config) : Prop :=
  ∀ k ∈ keys, k.content c = (k.said (.table t)).or (k.content {})

variable {fs : FileSystem} {path : Path} {text : String} {t : Toml.Table}

theorem load_of_ofTable {c : Config} (found : fs.readText path = .ok text)
    (read : Toml.read text = some t) (taken : ofTable t = some c) : load fs path = .ok c := by
  have there : fs.exists? path = true := by
    cases h : fs.find path with
    | ok p => rw [FileSystem.exists?, h]; rfl
    | error e =>
      rw [FileSystem.readText, FileSystem.read, h] at found
      cases found
  have parsed : parse? text = some c := by
    rw [parse?, read]
    exact taken
  rw [load, if_neg (not_not_intro there), found]
  dsimp only
  rw [parsed]

/--
A file that gives some keys, each with a value of its kind, is loaded as the default settings with
just these keys replaced. A mail server that is described at all has its host and port given.
-/
theorem load_replaces (found : fs.readText path = .ok text) (read : Toml.read text = some t)
    (fits : ∀ k ∈ keys, k.Fits (.table t))
    (server : (at? smtpPath (.table t)).isSome →
      (at? (smtpPath ++ ["host"]) (.table t)).isSome ∧
        (at? (smtpPath ++ ["port"]) (.table t)).isSome) :
    ∃ c, load fs path = .ok c ∧ ∀ d, Replaces t d ↔ d = c := by
  obtain ⟨c, taken, holds⟩ := overlays_config (.table t) fits
  have replaces : Replaces t c := by
    intro k hk
    rw [holds k hk]
    cases there : at? smtpPath (.table t) with
    | none => rw [ground_of_none there]
    | some w =>
      rw [ground_of_some there]
      obtain ⟨host, port⟩ := server (by rw [there]; rfl)
      have said (given : (at? k.path (.table t)).isSome) : (k.said (.table t)).isSome := by
        obtain ⟨v, hv⟩ := Option.isSome_iff_exists.mp given
        rw [Key.said, hv]
        exact (fits k hk).isSome hv
      rcases content_without_server k hk with given | given | same
      · rw [Option.or_of_isSome (said (given ▸ host)), Option.or_of_isSome (said (given ▸ host))]
      · rw [Option.or_of_isSome (said (given ▸ port)), Option.or_of_isSome (said (given ▸ port))]
      · rw [same]
  refine ⟨c, ?_, fun d => ⟨fun other => ?_, ?_⟩⟩
  · exact load_of_ofTable found read taken
  · exact determine_keys fun k hk => (other k hk).trans (replaces k hk).symm
  · rintro rfl
    exact replaces

theorem readText_conf (text : String) :
    (FileSystem.empty.put (.ofNames ["conf"]) (.file (.ofString text))).readText ⟨"conf"⟩ =
      .ok text :=
  FileSystem.readText_of_find ((FileSystem.isName_of_plain "conf" (by decide)).find rfl)

theorem load_replaces_of_submission :
    let text := "server.port = 25\n[log]\nstrategy = \"lines\"\ncolour = 1\n" ++
      "[delivery.mail.smtp]\nhost = \"mx\"\nport = 587\n"
    let fs := FileSystem.empty.put (.ofNames ["conf"]) (.file (.ofString text))
    let c : Config :=
      { server := { port := 25 }
        log := { rotation := .lines }
        delivery := { mail := { smtp := { host := "mx", port := 587 } } } }
    ∃ t, Toml.read text = some t ∧ load fs ⟨"conf"⟩ = .ok c ∧ Replaces t c := by
  intro text fs c
  have readable : (Toml.read text).isSome := by decide +kernel
  let t := (Toml.read text).getD []
  have read : Toml.read text = some t :=
    (Option.some_get readable).symm.trans (congrArg some (Option.get_eq_getD _))
  have fits : ∀ k ∈ keys, k.Fits (.table t) := by decide +kernel
  have server : (at? (smtpPath ++ ["host"]) (.table t)).isSome ∧
      (at? (smtpPath ++ ["port"]) (.table t)).isSome := by decide +kernel
  obtain ⟨d, loaded, only⟩ := load_replaces (readText_conf text) read fits fun _ => server
  have taken : ofTable t = some c := by decide +kernel
  have computed : load fs ⟨"conf"⟩ = .ok c := load_of_ofTable (readText_conf text) read taken
  have same : c = d := Except.ok.inj (computed.symm.trans loaded)
  exact ⟨t, read, computed, (only c).mpr same⟩

/--
A mail server that is described in part is not the default one with this part replaced: its port is
zero.
-/
theorem lost_mail_server :
    let text := "[delivery.mail.smtp]\nuser = \"u\"\n"
    let fs := FileSystem.empty.put (.ofNames ["conf"]) (.file (.ofString text))
    let c : Config := { delivery := { mail := { smtp := { user := "u" } } } }
    ∃ t, fs.readText ⟨"conf"⟩ = .ok text ∧ Toml.read text = some t ∧
      (∀ k ∈ keys, k.Fits (.table t)) ∧ load fs ⟨"conf"⟩ = .ok c ∧
      c.delivery.mail.smtp.port = 0 ∧ ¬ Replaces t c := by
  intro text fs c
  let t : Toml.Table :=
    [("delivery", .table [("mail", .table [("smtp", .table [("user", .string "u")])])])]
  let t' : Toml.Section := ⟨"delivery.mail.smtp", [("user", .string "u")]⟩
  let sections := [(t', ["delivery", "mail", "smtp"])]
  have written : text = Toml.renderSections (sections.map Prod.fst) := by decide +kernel
  have stands : t'.At ["delivery", "mail", "smtp"] :=
    { name := by decide
      some := List.cons_ne_nil _ _
      names := by decide
      short := by decide
      readable := List.forall_mem_singleton.mpr ⟨by decide, trivial⟩ }
  have all : ∀ p ∈ sections, p.1.At p.2 := List.forall_mem_singleton.mpr stands
  have read : Toml.read text = some t := by
    rw [written]
    exact Toml.read_renderSections all
  have fits : ∀ k ∈ keys, k.Fits (.table t) := by decide +kernel
  have loaded : load fs ⟨"conf"⟩ = .ok c := load_of_ofTable (readText_conf text) read rfl
  refine ⟨t, readText_conf text, read, fits, loaded, rfl, fun replaces => ?_⟩
  let port : Key MailConfig := (Key.nat "port" Text.max16 SmtpConfig.port).under "smtp" (·.smtp)
  have inside : port ∈ mailKeys :=
    List.mem_append_right _ (List.mem_map_of_mem (List.mem_cons_of_mem _ List.mem_cons_self))
  have delivery := (forall_mem_keys.mp replaces).2.2.1
  have same := delivery _ <| List.mem_map_of_mem <| List.mem_cons_of_mem _ <|
    List.mem_append_left _ <| List.mem_append_left _ <| List.mem_map_of_mem inside
  cases same

end EventRelay.Config
