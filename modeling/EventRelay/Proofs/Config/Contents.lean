import EventRelay.Proofs.Config.Overlay
import EventRelay.Proofs.Config.Written
import Mathlib.Data.List.Nodup

namespace EventRelay.Config

open Toml (Value Table)
open Text (max16 max64 maxSigned64)

variable {σ τ : Type}

theorem forall_mem_mailKeys {p : Key MailConfig → Prop} : (∀ k ∈ mailKeys, p k) ↔
    (∀ k ∈ own mailKeys, p k) ∧ ∀ k ∈ smtpKeys.map (Key.under "smtp" MailConfig.smtp), p k :=
  List.forall_mem_append

theorem forall_mem_sections {p : Key Config → Prop} : (∀ k ∈ keys, p k) ↔
    (∀ k ∈ own serverKeys, p (k.under "server" (·.server))) ∧
    (∀ k ∈ own logKeys, p (k.under "log" (·.log))) ∧
    (∀ k ∈ own deliveryKeys, p (k.under "delivery" (·.delivery))) ∧
    (∀ k ∈ own mailKeys, p ((k.under "mail" (·.mail)).under "delivery" (·.delivery))) ∧
    (∀ k ∈ own smtpKeys,
      p (((k.under "smtp" (·.smtp)).under "mail" (·.mail)).under "delivery" (·.delivery))) ∧
    (∀ k ∈ own soundKeys, p ((k.under "sound" (·.sound)).under "delivery" (·.delivery))) ∧
    (∀ k ∈ own webhookKeys, p ((k.under "webhook" (·.webhook)).under "delivery" (·.delivery))) ∧
    (∀ k ∈ own daemonKeys, p (k.under "daemon" (·.daemon))) ∧
    ∀ k ∈ own clientKeys, p (k.under "client" (·.client)) := by
  have delivery := forall_mem_deliveryKeys (p := fun k => p (k.under "delivery" (·.delivery)))
  have mail := forall_mem_mailKeys
    (p := fun k => p ((k.under "mail" (·.mail)).under "delivery" (·.delivery)))
  have sink : own deliveryKeys = [.choice "sink" ["mail", "sound", "webhook"] (sinkName ·.sink)] :=
    rfl
  simp only [List.forall_mem_map] at delivery mail
  rw [forall_mem_keys]
  simp only [List.forall_mem_map, delivery, mail, and_assoc, sink, List.forall_mem_singleton]
  rfl

def Key.SaidBy (k : Key σ) (v : Value) (s : σ) : Prop := k.Fits v ∧ k.said v = k.content s

def Only (es : Table) (name : String) (held : Option Value) : Prop :=
  ∀ v, (name, v) ∈ es ↔ held = some v

variable {es inner : Table} {name : String} {s : σ} {ks : List (Key σ)}

theorem Only.lookup {held : Option Value} (h : Only es name held) :
    es.reverse.lookup name = held := by
  cases found : es.reverse.lookup name with
  | none =>
    cases held with
    | none => rfl
    | some v =>
      have there := List.mem_reverse.mpr ((h v).mpr rfl)
      have := List.lookup_eq_none_iff.mp found _ there
      simp at this
  | some v =>
    obtain ⟨before, after, split, -⟩ := List.lookup_eq_some_iff.mp found
    refine ((h v).mp ?_).symm
    rw [← List.mem_reverse, split]
    exact List.mem_append_right _ List.mem_cons_self

theorem saidBy_of_only {k : Key σ} (flat : k.below = []) (only : Only es k.name (k.content s))
    (takes : k.Takes s) : k.SaidBy (.table es) s := by
  constructor
  · rw [Key.Fits, Key.path, flat]
    refine fitsAt_cons.mpr ⟨es, rfl, fun v hv => ?_⟩
    rw [FitsAt, takes v ((only v).mp hv)]
    rfl
  · rw [Key.said, Key.path, flat, at?, only.lookup]
    cases held : k.content s with
    | none => rfl
    | some v => exact takes v held

theorem saidBy_under {get : σ → τ} {k : Key τ} {v : Value} (only : Only es name (some v))
    (said : k.SaidBy v (get s)) : (k.under name get).SaidBy (.table es) s := by
  constructor
  · refine fitsAt_cons.mpr ⟨es, rfl, fun w hw => ?_⟩
    cases (only w).mp hw
    exact said.1
  · rw [Key.said, Key.path, at?, Key.under, only.lookup]
    exact said.2

def sectionTable (ks : List (Key σ)) (s : σ) (below : Table) : Value :=
  .table (entries (own ks) s ++ below)

section

variable {below : Table}

theorem flat_of_mem_own {k : Key σ} (hk : k ∈ own ks) : k.below = [] :=
  List.isEmpty_iff.mp (List.mem_filter.mp hk).2

theorem saidBy_own (names : List String) (distinct : ((own ks).map Key.name).Nodup)
    (named : below.map Prod.fst = names) (apart : ∀ k ∈ own ks, k.name ∉ names)
    (takes : ∀ k ∈ own ks, k.Takes s) :
    ∀ k ∈ own ks, k.SaidBy (sectionTable ks s below) s := by
  intro k hk
  refine saidBy_of_only (flat_of_mem_own hk) (fun v => ?_) (takes k hk)
  rw [List.mem_append, mem_entries]
  constructor
  · rintro (⟨k', hk', name, holds⟩ | there)
    · rwa [← List.inj_on_of_nodup_map distinct hk' hk name]
    · exact absurd (named ▸ List.mem_map_of_mem there) (apart k hk)
  · exact fun holds => .inl ⟨k, hk, rfl, holds⟩

theorem only_below {v : Value} (fresh : name ∉ (own ks).map Key.name)
    (only : Only below name (some v)) : Only (entries (own ks) s ++ below) name (some v) := by
  intro w
  rw [List.mem_append, ← only w, or_iff_right]
  intro there
  obtain ⟨k, hk, rfl, -⟩ := mem_entries.mp there
  exact fresh (List.mem_map_of_mem hk)

end

theorem saidBy_flat (distinct : ((own ks).map Key.name).Nodup) (flat : own ks = ks)
    (takes : ∀ k ∈ ks, k.Takes s) : ∀ k ∈ ks, k.SaidBy (sectionTable ks s []) s := by
  have all := saidBy_own [] (s := s) distinct (show ([] : Table).map Prod.fst = [] from rfl)
    fun _ _ => List.not_mem_nil
  rw [flat] at all
  exact all takes

def mailTable (c : MailConfig) : Value :=
  sectionTable mailKeys c [("smtp", sectionTable smtpKeys c.smtp [])]

def sinkTables (c : DeliveryConfig) : Table :=
  [("mail", mailTable c.mail), ("sound", sectionTable soundKeys c.sound []),
    ("webhook", sectionTable webhookKeys c.webhook [])]

def deliveryTable (c : DeliveryConfig) : Value := sectionTable deliveryKeys c (sinkTables c)

def contents (c : Config) : Table :=
  [("server", sectionTable serverKeys c.server []), ("log", sectionTable logKeys c.log []),
    ("delivery", deliveryTable c.delivery), ("daemon", sectionTable daemonKeys c.daemon []),
    ("client", sectionTable clientKeys c.client [])]

theorem only_smtp (c : MailConfig) : Only (entries (own mailKeys) c ++
    [("smtp", sectionTable smtpKeys c.smtp [])]) "smtp" (some (sectionTable smtpKeys c.smtp [])) :=
  only_below (by decide) (by simp [Only, eq_comm])

theorem only_mail (c : DeliveryConfig) : Only (entries (own deliveryKeys) c ++ sinkTables c) "mail"
    (some (mailTable c.mail)) :=
  only_below (by decide) (by simp [Only, sinkTables, eq_comm])

theorem only_delivery (c : Config) :
    Only (contents c) "delivery" (some (deliveryTable c.delivery)) := by
  simp [Only, contents, eq_comm]

theorem saidBy_mailTable {c : MailConfig} (takes : ∀ k ∈ mailKeys, k.Takes c) :
    ∀ k ∈ mailKeys, k.SaidBy (mailTable c) c := by
  obtain ⟨mail, smtp⟩ := forall_mem_mailKeys.mp takes
  refine forall_mem_mailKeys.mpr ⟨saidBy_own ["smtp"] (by decide) rfl (by decide) mail, ?_⟩
  rw [List.forall_mem_map] at smtp ⊢
  exact fun k hk => saidBy_under (only_smtp c) (saidBy_flat (by decide) rfl smtp k hk)

theorem saidBy_deliveryTable {c : DeliveryConfig} (takes : ∀ k ∈ deliveryKeys, k.Takes c) :
    ∀ k ∈ deliveryKeys, k.SaidBy (deliveryTable c) c := by
  obtain ⟨sink, mail, sound, webhook⟩ := forall_mem_deliveryKeys.mp takes
  simp only [List.forall_mem_map] at mail sound webhook
  refine forall_mem_deliveryKeys.mpr ⟨?_, ?_, ?_, ?_⟩
  · have own : ∀ k ∈ own deliveryKeys, k.Takes c := List.forall_mem_singleton.mpr sink
    exact saidBy_own ["mail", "sound", "webhook"] (by decide) rfl (by decide) own _
      List.mem_cons_self
  all_goals
    rw [List.forall_mem_map]
    intro k hk
  · exact saidBy_under (only_mail c) (saidBy_mailTable mail k hk)
  · refine saidBy_under (only_below (by decide) ?_) (saidBy_flat (by decide) rfl sound k hk)
    simp [Only, sinkTables, eq_comm]
  · refine saidBy_under (only_below (by decide) ?_) (saidBy_flat (by decide) rfl webhook k hk)
    simp [Only, sinkTables, eq_comm]

variable {c : Config}

theorem saidBy_contents (takes : ∀ k ∈ keys, k.Takes c) :
    ∀ k ∈ keys, k.SaidBy (.table (contents c)) c := by
  obtain ⟨server, log, delivery, daemon, client⟩ := forall_mem_keys.mp takes
  rw [List.forall_mem_map] at server log delivery daemon client
  refine forall_mem_keys.mpr ⟨?_, ?_, ?_, ?_, ?_⟩
  all_goals
    rw [List.forall_mem_map]
    intro k hk
  · refine saidBy_under ?_ (saidBy_flat (by decide) rfl server k hk)
    simp [Only, contents, eq_comm]
  · refine saidBy_under ?_ (saidBy_flat (by decide) rfl log k hk)
    simp [Only, contents, eq_comm]
  · exact saidBy_under (only_delivery c) (saidBy_deliveryTable delivery k hk)
  · refine saidBy_under ?_ (saidBy_flat (by decide) rfl daemon k hk)
    simp [Only, contents, eq_comm]
  · refine saidBy_under ?_ (saidBy_flat (by decide) rfl client k hk)
    simp [Only, contents, eq_comm]

theorem content_default_of_none : ∀ k ∈ keys, k.content c = none →
    k.content { delivery := { mail := { smtp := {} } } } = none := by
  simp [keys, serverKeys, logKeys, deliveryKeys, mailKeys, smtpKeys, soundKeys, webhookKeys,
    daemonKeys, clientKeys]

theorem at?_contents : ∃ v, at? smtpPath (.table (contents c)) = some v := by
  refine ⟨sectionTable smtpKeys c.delivery.mail.smtp [], ?_⟩
  rw [smtpPath, at?, (only_delivery c).lookup, Option.bind_some, deliveryTable, sectionTable, at?,
    (only_mail _).lookup, Option.bind_some, mailTable, sectionTable, at?, (only_smtp _).lookup,
    Option.bind_some, at?]

theorem ofTable_contents (takes : ∀ k ∈ keys, k.Takes c) : ofTable (contents c) = some c := by
  have said := saidBy_contents takes
  obtain ⟨d, read, holds⟩ := overlays_config (.table (contents c)) fun k hk => (said k hk).1
  obtain ⟨v, server⟩ := at?_contents (c := c)
  have same : d = c := by
    refine determine_keys fun k hk => ?_
    rw [holds k hk, (said k hk).2, ground_of_some server]
    cases held : k.content c with
    | none => rw [content_default_of_none k hk held, Option.or_none]
    | some v => rfl
  rw [ofTable, read, same]

end EventRelay.Config
