import EventRelay.Proofs.Config.Contents
import EventRelay.Proofs.Toml.Tables

namespace EventRelay.Config

open Toml (Value Section Forest IsName joined)

variable {σ : Type} {c : Config}

theorem names_entries (ks : List (Key σ)) (s : σ) :
    ((entries ks s).map Prod.fst).Sublist (ks.map Key.name) := by
  induction ks with
  | nil => exact .slnil
  | cons k ks ih =>
    rw [entries, List.filterMap_cons, List.map_cons]
    cases k.content s with
    | none => exact ih.cons _
    | some v => exact ih.cons_cons _

namespace Assigns

variable {t : Section} {name : String} {ks : List (Key σ)} {s : σ}

theorem names (h : Assigns t name ks s) :
    (t.assignments.map Prod.fst).Sublist (ks.map Key.name) := by
  have same : t.assignments.map Prod.fst = (Config.entries ks s).map Prod.fst := by
    rw [← h.entries, List.map_map]
    rfl
  rw [same]
  exact names_entries ks s

theorem distinct (h : Assigns t name ks s) (distinct : (ks.map Key.name).Nodup) :
    (t.assignments.map Prod.fst).Nodup := distinct.sublist h.names

theorem fresh (h : Assigns t name ks s) {key : String} (other : key ∉ ks.map Key.name) :
    key ∉ t.assignments.map Prod.fst := fun there => other (h.names.subset there)

end Assigns

structure Part where
  name : String
  path : List String
  {Settings : Type}
  get : Config → Settings
  {fields : List (Field Settings)}
  {keys : List (Key Settings)}
  describe : Describe fields keys

namespace Part

def write (p : Part) (c : Config) : Option Section := writeFields p.name p.fields (p.get c)

def IsWritten (p : Part) (c : Config) (t : Section) : Prop := Assigns t p.name p.keys (p.get c)

structure Readable (p : Part) : Prop where
  shown : p.name.toList = joined p.path
  some : p.path ≠ []
  short : p.path.length < Toml.keyLimit
  names : ∀ n ∈ p.path, IsName n
  keys : ∀ n ∈ p.keys.map Key.name, IsName n
  distinct : (p.keys.map Key.name).Nodup

theorem Readable.at {p : Part} (h : p.Readable) {t : Section} (written : p.IsWritten c t) :
    t.At p.path where
  name := written.name ▸ h.shown
  some := h.some
  names := h.names
  short := h.short
  readable a ha := ⟨h.keys _ (written.names.subset (List.mem_map_of_mem ha)), written.fits a ha⟩

end Part

def parts : List Part :=
  [⟨"server", ["server"], (·.server), describe_server⟩, ⟨"log", ["log"], (·.log), describe_log⟩,
    ⟨"delivery", ["delivery"], (·.delivery), describe_delivery⟩,
    ⟨"delivery.mail", ["delivery", "mail"], (·.delivery.mail), describe_mail⟩,
    ⟨"delivery.mail.smtp", ["delivery", "mail", "smtp"], (·.delivery.mail.smtp), describe_smtp⟩,
    ⟨"delivery.sound", ["delivery", "sound"], (·.delivery.sound), describe_sound⟩,
    ⟨"delivery.webhook", ["delivery", "webhook"], (·.delivery.webhook), describe_webhook⟩,
    ⟨"daemon", ["daemon"], (·.daemon), describe_daemon⟩,
    ⟨"client", ["client"], (·.client), describe_client⟩]

theorem readable_parts : ∀ p ∈ parts, p.Readable := by
  have shown : ∀ p ∈ parts, p.name.toList = joined p.path := by decide +kernel
  have some : ∀ p ∈ parts, p.path ≠ [] := by decide
  have short : ∀ p ∈ parts, p.path.length < Toml.keyLimit := by decide
  have names : ∀ p ∈ parts, ∀ n ∈ p.path, IsName n := by decide +kernel
  have keys : ∀ p ∈ parts, ∀ n ∈ p.keys.map Key.name, IsName n := by decide +kernel
  have distinct : ∀ p ∈ parts, (p.keys.map Key.name).Nodup := by decide
  exact fun p hp =>
    ⟨shown p hp, some p hp, short p hp, names p hp, keys p hp, distinct p hp⟩

theorem forall_mem_parts {p : Option Value → Prop} : (∀ k ∈ keys, p (k.content c)) ↔
    ∀ q ∈ parts, ∀ k ∈ q.keys, p (k.content (q.get c)) := by
  rw [forall_mem_sections]
  simp only [parts, List.forall_mem_cons, List.not_mem_nil, false_implies, implies_true, and_true]
  rfl

theorem sections_eq (c : Config) : c.sections = parts.mapM fun p => p.write c := by
  simp [sections, parts, Part.write, Option.bind_assoc]

theorem forall₂_of_mapM {α : Type*} {β : Type} {f : α → Option β} {xs : List α} {ys : List β}
    (h : xs.mapM f = some ys) : List.Forall₂ (fun x y => f x = some y) xs ys := by
  induction xs generalizing ys with
  | nil =>
    cases h
    exact .nil
  | cons x xs ih =>
    rw [List.mapM_cons] at h
    obtain ⟨y, first, h⟩ := Option.bind_eq_some_iff.mp h
    obtain ⟨ys, rest, h⟩ := Option.bind_eq_some_iff.mp h
    cases h
    exact .cons first (ih rest)

theorem mapM_eq_none_iff {α : Type*} {β : Type} {f : α → Option β} {xs : List α} :
    xs.mapM f = none ↔ ∃ x ∈ xs, f x = none := by
  induction xs with
  | nil => simp
  | cons x xs ih =>
    rw [List.mapM_cons, List.exists_mem_cons_iff, ← ih]
    cases f x with
    | none => simp
    | some y => cases xs.mapM f <;> simp

theorem sections_eq_none_iff : c.sections = none ↔ ∃ k ∈ keys, TooLarge (k.content c) := by
  have all := forall_mem_parts (c := c) (p := fun held => ¬ TooLarge held)
  have some := not_congr all
  push Not at some
  rw [sections_eq, mapM_eq_none_iff, some]
  exact exists_congr fun p => and_congr_right fun _ => p.describe.writeFields_eq_none_iff

theorem isWritten_of_sections {ts : List Section} (h : c.sections = some ts) :
    List.Forall₂ (fun p t => p.IsWritten c t) parts ts := by
  rw [sections_eq] at h
  exact (forall₂_of_mapM h).imp fun p _ written => p.describe.assigns written

def headed (ps : List Part) (ts : List Section) : List (Section × List String) :=
  List.zipWith (fun p t => (t, p.path)) ps ts

theorem map_fst_headed {ps : List Part} {ts : List Section}
    (h : List.Forall₂ (fun p t => p.IsWritten c t) ps ts) : (headed ps ts).map Prod.fst = ts := by
  induction h with
  | nil => rfl
  | cons _ _ ih => exact congrArg (List.cons _) ih

theorem at_headed {ps : List Part} {ts : List Section} (readable : ∀ p ∈ ps, p.Readable)
    (h : List.Forall₂ (fun p t => p.IsWritten c t) ps ts) : ∀ q ∈ headed ps ts, q.1.At q.2 := by
  induction h with
  | nil => exact List.forall_mem_nil _
  | cons written _ ih =>
    obtain ⟨first, readable⟩ := List.forall_mem_cons.mp readable
    exact List.forall_mem_cons.mpr ⟨first.at written, ih readable⟩

def forest (server log delivery mail smtp sound webhook daemon client : Section) : Forest :=
  .cons "server" server .nil <| .cons "log" log .nil <|
  .cons "delivery" delivery (.cons "mail" mail (.cons "smtp" smtp .nil .nil) <|
    .cons "sound" sound .nil <| .cons "webhook" webhook .nil .nil) <|
  .cons "daemon" daemon .nil <| .cons "client" client .nil .nil

theorem tableOf_headed {ts : List Section}
    (h : List.Forall₂ (fun p t => p.IsWritten c t) parts ts) :
    Toml.tableOf (Toml.statementsOf (headed parts ts)) = some (contents c) := by
  simp only [parts, List.forall₂_cons_left_iff, List.forall₂_nil_left_iff] at h
  obtain ⟨server, _, hserver, ⟨log, _, hlog, ⟨delivery, _, hdelivery, ⟨mail, _, hmail,
    ⟨smtp, _, hsmtp, ⟨sound, _, hsound, ⟨webhook, _, hwebhook, ⟨daemon, _, hdaemon,
    ⟨client, _, hclient, rfl, rfl⟩, rfl⟩, rfl⟩, rfl⟩, rfl⟩, rfl⟩, rfl⟩, rfl⟩, rfl⟩ := h
  have distinct : (forest server log delivery mail smtp sound webhook daemon client).Distinct [] := by
    have sink (key : String) (other : key ∉ ["sink"]) :
        key ∉ delivery.assignments.map Prod.fst := hdelivery.fresh other
    -- the tables of the sinks stand beside the name of the sink that is used
    refine ⟨by decide, hserver.distinct (by decide), trivial,
      by decide, hlog.distinct (by decide), trivial,
      by decide, hdelivery.distinct (by decide), ⟨sink _ (by decide), hmail.distinct (by decide),
        ⟨hmail.fresh (by decide), hsmtp.distinct (by decide), trivial, trivial⟩,
        ?_, hsound.distinct (by decide), trivial,
        ?_, hwebhook.distinct (by decide), trivial, trivial⟩,
      by decide, hdaemon.distinct (by decide), trivial,
      by decide, hclient.distinct (by decide), trivial, trivial⟩
    · simpa using sink "sound" (by decide)
    · simpa using sink "webhook" (by decide)
  have table : (forest server log delivery mail smtp sound webhook daemon client).table =
      contents c := by
    simp only [forest, Forest.table, hserver.entries, hlog.entries, hdelivery.entries,
      hmail.entries, hsmtp.entries, hsound.entries, hwebhook.entries, hdaemon.entries,
      hclient.entries]
    rfl
  rw [← table]
  exact Forest.tableOf_sections distinct

theorem read_of_render? {text : String} (h : c.render? = some text) :
    Toml.read text = some (contents c) := by
  obtain ⟨ts, sections, rfl⟩ := Option.map_eq_some_iff.mp h
  have written := isWritten_of_sections sections
  have read := Toml.read_renderSections (at_headed readable_parts written)
  rw [map_fst_headed written, tableOf_headed written] at read
  exact read

theorem render?_eq_none_iff : c.render? = none ↔ ∃ k ∈ keys, TooLarge (k.content c) :=
  Option.map_eq_none_iff.trans sections_eq_none_iff

end EventRelay.Config
