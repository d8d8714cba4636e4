import EventRelay.Proofs.Config.Keys
import EventRelay.Proofs.Toml.Scalars

namespace EventRelay.Config

open Toml (Value Scalar)
open Text (max16 max64 maxSigned64)

variable {σ α : Type}

def TooLarge (held : Option Value) : Prop := ∃ n : Int, held = some (.integer n) ∧ maxSigned64 < n

/-- A field writes what is held under a key, if anything is. -/
inductive Shows : Option Value → Written → Prop
  | scalar {v : Scalar} (fits : v.Fits) : Shows (some v.value) (.scalar v)
  | omitted : Shows none .omitted
  | impossible {held : Option Value} (large : TooLarge held) : Shows held .impossible

theorem Shows.eq_impossible_iff {held : Option Value} {w : Written} (h : Shows held w) :
    w = .impossible ↔ TooLarge held := by
  cases h with
  | @scalar v fits =>
    refine ⟨nofun, ?_⟩
    rintro ⟨n, same, large⟩
    cases v with
    | integer m =>
      obtain ⟨m, small, rfl⟩ := fits
      injection same with same
      injection same with same
      omega
    | _ => cases same
  | omitted => exact ⟨nofun, fun ⟨_, same, _⟩ => nomatch same⟩
  | impossible large => exact ⟨fun _ => large, fun _ => rfl⟩

def Key.Takes (k : Key σ) (s : σ) : Prop := ∀ v, k.content s = some v → k.kind.content? v = some v

def Key.Bounded (k : Key σ) (s : σ) : Prop :=
  ∀ max n : Nat, k.kind = .nat max → k.content s = some (.integer n) → n ≤ max

structure Field.Writes (f : Field σ) (k : Key σ) : Prop where
  name : f.key = k.name
  shows : ∀ s, Shows (k.content s) (f.write s)
  takes : ∀ s, k.Bounded s → k.Takes s

section

variable {name : String}

theorem writes_text {get : σ → String} {set : String → σ → σ} :
    (textField name get set).Writes (.text name get) where
  name := rfl
  shows s := .scalar (v := .string (get s)) trivial
  takes
    | _, _, _, rfl => rfl

theorem writes_optional {get : σ → Option String} {set : String → σ → σ} :
    (optionalField name get set).Writes (.optionalText name get) where
  name := rfl
  shows s := by
    dsimp only [optionalField, Key.optionalText]
    cases get s with
    | none => exact .omitted
    | some text => exact .scalar (v := .string text) trivial
  takes s _ v same := by
    obtain ⟨text, -, rfl⟩ := Option.map_eq_some_iff.mp same
    rfl

theorem writes_path {get : σ → Path} {set : Path → σ → σ} :
    (pathField name get set).Writes (.text name fun s => (get s).text) where
  name := rfl
  shows s := .scalar (v := .string (get s).text) trivial
  takes
    | _, _, _, rfl => rfl

theorem writes_nat {max : Nat} {get : σ → Nat} {set : Nat → σ → σ} :
    (natField name max get set).Writes (.nat name max get) where
  name := rfl
  shows s := by
    dsimp only [natField, Key.nat]
    rw [writeNat]
    split
    · next small => exact .scalar (v := .integer (get s)) ⟨get s, small, rfl⟩
    · next large => exact .impossible ⟨get s, rfl, Int.ofNat_lt.mpr (Nat.lt_of_not_le large)⟩
  takes
    | s, bounded, _, rfl =>
      if_pos ⟨Int.natCast_nonneg _, Int.ofNat_le.mpr (bounded max (get s) rfl rfl)⟩

theorem writes_flag {get : σ → Bool} {set : Bool → σ → σ} :
    (flagField name get set).Writes (.flag name get) where
  name := rfl
  shows s := .scalar (v := .boolean (get s)) trivial
  takes
    | _, _, _, rfl => rfl

theorem writes_texts {get : σ → List String} {set : List String → σ → σ} :
    (textsField name get set).Writes (.texts name get) where
  name := rfl
  shows s := .scalar (v := .strings (get s)) trivial
  takes
    | _, _, _, rfl => if_pos (by simp [isTextValue])

theorem writes_choice [DecidableEq α] {names : List (String × α)} {nameOf : α → String}
    {words : List String} (named : ∀ a, writeChoice names a = writeText (nameOf a))
    (known : ∀ a, nameOf a ∈ words) {get : σ → α} {set : α → σ → σ} :
    (choiceField name names get set).Writes (.choice name words fun s => nameOf (get s)) where
  name := rfl
  shows s := by
    dsimp only [choiceField, Key.choice]
    rw [named]
    exact .scalar (v := .string (nameOf (get s))) trivial
  takes
    | s, _, _, rfl => if_pos (known (get s))

end

def own (ks : List (Key σ)) : List (Key σ) := ks.filter (·.below.isEmpty)

inductive Describe : List (Field σ) → List (Key σ) → Prop
  | nil : Describe [] []
  | inner {f : Field σ} {fs : List (Field σ)} {ks : List (Key σ)} (omits : ∀ s, f.write s = .omitted)
    (rest : Describe fs ks) : Describe (f :: fs) ks
  | field {f : Field σ} {fs : List (Field σ)} {k : Key σ} {ks : List (Key σ)} (writes : f.Writes k)
    (rest : Describe fs ks) : Describe (f :: fs) (k :: ks)

theorem describe_server : Describe serverFields (own serverKeys) :=
  .field writes_text <| .field writes_nat <| .field writes_nat <| .field writes_nat <|
  .field writes_nat <| .field writes_flag <| .field writes_nat .nil

theorem describe_log : Describe logFields (own logKeys) :=
  .field writes_path <|
  .field (writes_choice (by rintro ⟨⟩ <;> rfl) (by rintro ⟨⟩ <;> decide)) <|
  .field writes_nat <| .field writes_nat .nil

theorem describe_smtp : Describe smtpFields (own smtpKeys) :=
  .field writes_text <| .field writes_nat <|
  .field (writes_choice (by rintro ⟨⟩ <;> rfl) (by rintro ⟨⟩ <;> decide)) <|
  .field writes_text <| .field writes_optional .nil

theorem describe_mail : Describe mailFields (own mailKeys) :=
  .field writes_flag <| .field writes_text <| .field writes_texts <| .inner (fun _ => rfl) <|
  .field writes_text <| .field writes_texts .nil

theorem describe_sound : Describe soundFields (own soundKeys) :=
  .field writes_flag <| .field writes_path <| .field writes_text <| .field writes_flag <|
  .field writes_text .nil

theorem describe_webhook : Describe webhookFields (own webhookKeys) :=
  .field writes_optional <| .field writes_nat .nil

theorem describe_delivery : Describe deliveryFields (own deliveryKeys) :=
  .field (writes_choice (by rintro ⟨⟩ <;> rfl) (by rintro ⟨⟩ <;> decide)) <|
  .inner (fun _ => rfl) <| .inner (fun _ => rfl) <| .inner (fun _ => rfl) .nil

theorem describe_daemon : Describe daemonFields (own daemonKeys) :=
  .field writes_path <| .field writes_text <| .field writes_optional <| .field writes_path .nil

theorem describe_client : Describe clientFields (own clientKeys) :=
  .field writes_optional <| .field writes_optional <| .field writes_nat <| .field writes_nat <|
  .field writes_nat <| .field writes_flag .nil

theorem Describe.takes {fs : List (Field σ)} {ks : List (Key σ)} (h : Describe fs ks) :
    ∀ k ∈ ks, ∀ s, k.Bounded s → k.Takes s := by
  induction h with
  | nil => nofun
  | inner _ _ ih => exact ih
  | field writes _ ih => exact List.forall_mem_cons.mpr ⟨writes.takes, ih⟩

def entries (ks : List (Key σ)) (s : σ) : Toml.Table :=
  ks.filterMap fun k => (k.content s).map fun v => (k.name, v)

theorem mem_entries {ks : List (Key σ)} {s : σ} {name : String} {v : Value} :
    (name, v) ∈ entries ks s ↔ ∃ k ∈ ks, k.name = name ∧ k.content s = some v := by
  simp only [entries, List.mem_filterMap, Option.map_eq_some_iff, Prod.mk.injEq]
  constructor
  · rintro ⟨k, hk, w, holds, rfl, rfl⟩
    exact ⟨k, hk, rfl, holds⟩
  · rintro ⟨k, hk, rfl, holds⟩
    exact ⟨k, hk, v, holds, rfl, rfl⟩

structure Assigns (t : Toml.Section) (name : String) (ks : List (Key σ)) (s : σ) : Prop where
  name : t.name = name
  entries : t.assignments.map (fun a => (a.1, a.2.value)) = entries ks s
  fits : ∀ a ∈ t.assignments, a.2.Fits

theorem writeFields_cons (name : String) (f : Field σ) (fs : List (Field σ)) (s : σ) :
    writeFields name (f :: fs) s =
      match f.write s with
      | .scalar v => (writeFields name fs s).map fun t =>
          { t with assignments := (f.key, v) :: t.assignments }
      | .omitted => writeFields name fs s
      | .impossible => none := by
  simp only [writeFields, List.filterMapM_cons]
  cases f.write s with
  | scalar v =>
    simp only [Option.bind_eq_bind, Option.bind_some]
    generalize (fs.filterMapM _ : Option (List (String × Scalar))) = rest
    cases rest <;> rfl
  | omitted => rfl
  | impossible => rfl

theorem Describe.writeFields_eq_none_iff {fs : List (Field σ)} {ks : List (Key σ)}
    (h : Describe fs ks) {name : String} {s : σ} :
    writeFields name fs s = none ↔ ∃ k ∈ ks, TooLarge (k.content s) := by
  induction h with
  | nil => exact ⟨nofun, fun ⟨_, hk, _⟩ => nomatch hk⟩
  | inner omits _ ih => rw [writeFields_cons, omits, ih]
  | @field f fs k ks writes _ ih =>
    simp only [writeFields_cons, List.mem_cons, or_and_right, exists_or, exists_eq_left, ← ih,
      ← (writes.shows s).eq_impossible_iff]
    cases f.write s <;> simp

theorem Describe.assigns {fs : List (Field σ)} {ks : List (Key σ)} (h : Describe fs ks)
    {name : String} {s : σ} {t : Toml.Section} (written : writeFields name fs s = some t) :
    Assigns t name ks s := by
  induction h generalizing t with
  | nil =>
    cases written
    exact ⟨rfl, rfl, nofun⟩
  | inner omits _ ih =>
    rw [writeFields_cons, omits] at written
    exact ih written
  | @field f fs k ks writes _ ih =>
    have shows := writes.shows s
    rw [writeFields_cons] at written
    generalize held : k.content s = o at shows
    generalize f.write s = w at shows written
    cases shows with
    | @scalar v fits =>
      obtain ⟨t, below, rfl⟩ := Option.map_eq_some_iff.mp written
      have assigns := ih below
      refine ⟨assigns.name, ?_, List.forall_mem_cons.mpr ⟨fits, assigns.fits⟩⟩
      rw [List.map_cons, assigns.entries, entries, entries, List.filterMap_cons, held, writes.name]
      rfl
    | omitted =>
      have assigns := ih written
      refine ⟨assigns.name, ?_, assigns.fits⟩
      rw [assigns.entries, entries, entries, List.filterMap_cons, held]
      rfl
    | impossible => cases written

end EventRelay.Config
