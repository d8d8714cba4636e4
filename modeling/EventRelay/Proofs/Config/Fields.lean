import EventRelay.Proofs.Config.Keys
import Mathlib.Data.List.Induction

namespace EventRelay.Config

open Toml (Value)
open Text (max16 max64)

variable {σ τ α : Type}

def Key.saidBelow (k : Key σ) (v : Value) : Option Value := (at? k.below v).bind k.kind.content?

/--
A field takes every value that fits the keys below it. These keys then hold what the value says, or
what they hold in `base`, and all other keys hold what they did.
-/
def Field.Obeys (f : Field σ) (ks : List (Key σ)) (base : Value → σ) : Prop :=
  ∀ v s, (∀ k ∈ ks, k.name = f.key → FitsAt k.kind k.below v) →
    ∃ s', f.read v s = some s' ∧ ∀ k ∈ ks, k.content s' =
      if k.name = f.key then (k.saidBelow v).or (k.content (base v)) else k.content s

structure Governs (ks : List (Key σ)) (key : String) (kind : Kind) (set : α → σ → σ)
    (shown : α → Value) : Prop where
  known : ∃ k ∈ ks, k.name = key
  own : ∀ k ∈ ks, k.name = key → k.kind = kind ∧ k.below = []
  sets : ∀ k ∈ ks, ∀ a s, k.content (set a s) = if k.name = key then some (shown a) else k.content s

theorem Governs.obeys {ks : List (Key σ)} {key : String} {kind : Kind} {set : α → σ → σ}
    {shown : α → Value} (h : Governs ks key kind set shown) {read : Value → Option α}
    (takes : ∀ v, (read v).map shown = kind.content? v) (write : σ → Written) (base : Value → σ) :
    Field.Obeys ⟨key, fun v s => (read v).map (set · s), write⟩ ks base := by
  intro v s fits
  obtain ⟨k, hk, name⟩ := h.known
  have taken := fits k hk name
  rw [(h.own k hk name).1, (h.own k hk name).2, FitsAt, ← takes, Option.isSome_map] at taken
  obtain ⟨a, read⟩ := Option.isSome_iff_exists.mp taken
  refine ⟨set a s, congrArg (Option.map (set · s)) read, ?_⟩
  intro k hk
  rw [h.sets k hk]
  split
  · next name =>
    obtain ⟨kind, below⟩ := h.own k hk name
    rw [Key.saidBelow, kind, below, at?, Option.bind_some, ← takes, read]
    rfl
  · rfl

section Kinds

variable {ks : List (Key σ)} {key : String}

theorem obeys_text {get : σ → String} {set : String → σ → σ}
    (h : Governs ks key .text set .string) (base : Value → σ) :
    (textField key get set).Obeys ks base := by
  refine h.obeys (fun v => ?_) _ base
  cases v <;> rfl

theorem obeys_optional {get : σ → Option String} {set : String → σ → σ}
    (h : Governs ks key .text set .string) (base : Value → σ) :
    (optionalField key get set).Obeys ks base := by
  refine h.obeys (fun v => ?_) _ base
  cases v <;> rfl

theorem obeys_path {get : σ → Path} {set : Path → σ → σ}
    (h : Governs ks key .text set (.string ·.text)) (base : Value → σ) :
    (pathField key get set).Obeys ks base := by
  refine h.obeys (fun v => ?_) _ base
  cases v <;> rfl

theorem obeys_nat {max : Nat} {get : σ → Nat} {set : Nat → σ → σ}
    (h : Governs ks key (.nat max) set (.integer ·)) (base : Value → σ) :
    (natField key max get set).Obeys ks base := by
  refine h.obeys (fun v => ?_) _ base
  cases v with
  | integer n =>
    rw [readNat, Kind.content?]
    split
    · next fits => rw [Option.map_some, Int.toNat_of_nonneg fits.1]
    · rfl
  | _ => rfl

theorem obeys_flag {get : σ → Bool} {set : Bool → σ → σ}
    (h : Governs ks key .flag set .boolean) (base : Value → σ) :
    (flagField key get set).Obeys ks base := by
  refine h.obeys (fun v => ?_) _ base
  cases v <;> rfl

theorem readTexts_map (values : List Value) :
    (readTexts (.array values)).map (fun texts => Value.array (texts.map .string)) =
      if values.all isTextValue then some (.array values) else none := by
  rw [readTexts]
  induction values with
  | nil => rfl
  | cons v values ih =>
    cases v with
    | string s =>
      rw [List.mapM_cons, readText, List.all_cons, isTextValue, Bool.true_and]
      cases hr : values.mapM readText with
      | none =>
        rw [hr] at ih
        split at ih
        · cases ih
        · next mixed =>
          rw [if_neg mixed]
          rfl
      | some texts =>
        rw [hr] at ih
        split at ih
        · next pure =>
          rw [if_pos pure]
          injection ih with ih
          injection ih with ih
          rw [← ih]
          rfl
        · cases ih
    | _ => rfl

theorem obeys_texts {get : σ → List String} {set : List String → σ → σ}
    (h : Governs ks key .texts set fun texts => .array (texts.map .string)) (base : Value → σ) :
    (textsField key get set).Obeys ks base := by
  refine h.obeys (fun v => ?_) _ base
  cases v with
  | array values => exact readTexts_map values
  | _ => rfl

theorem lookup_named {names : List (String × α)} {nameOf : α → String}
    (named : ∀ p ∈ names, nameOf p.2 = p.1) (s : String) :
    (names.lookup s).map (fun a => Value.string (nameOf a)) =
      if s ∈ names.map Prod.fst then some (.string s) else none := by
  induction names with
  | nil => rfl
  | cons p names ih =>
    obtain ⟨name, a⟩ := p
    rw [List.forall_mem_cons] at named
    rw [List.lookup_cons, List.map_cons]
    by_cases same : s = name
    · subst same
      rw [beq_self_eq_true, if_pos List.mem_cons_self]
      exact congrArg (fun n => some (Value.string n)) named.1
    · rw [beq_eq_false_iff_ne.mpr same]
      simp only [List.mem_cons, same, false_or]
      exact ih named.2

theorem obeys_choice [DecidableEq α] {names : List (String × α)} {nameOf : α → String}
    (named : ∀ p ∈ names, nameOf p.2 = p.1) {get : σ → α} {set : α → σ → σ}
    (h : Governs ks key (.choice (names.map Prod.fst)) set fun a => .string (nameOf a))
    (base : Value → σ) : (choiceField key names get set).Obeys ks base := by
  refine h.obeys (fun v => ?_) _ base
  cases v with
  | string s => exact lookup_named named s
  | table entries =>
    match entries with
    | [] => rfl
    | [(name, v)] =>
      rw [readChoice, Kind.content?]
      by_cases empty : isEmptyValue v = true
      · rw [if_pos empty, lookup_named named]
        simp only [empty, true_and]
      · simp only [empty]
        rfl
    | _ :: _ :: _ => rfl
  | _ => rfl

end Kinds

/-- Every table that fits the keys is read, and where it says nothing `ground` holds. -/
def Overlays (ks : List (Key σ)) (ground : Value → σ) (read : Value → Option σ) : Prop :=
  ∀ v, (∀ k ∈ ks, k.Fits v) →
    ∃ s, read v = some s ∧ ∀ k ∈ ks, k.content s = (k.said v).or (k.content (ground v))

theorem Overlays.obeys {inner : List (Key τ)} {ground : Value → τ} {read : Value → Option τ}
    (overlays : Overlays inner ground read) {ks : List (Key σ)} {key : String} (get : σ → τ)
    {set : τ → σ → σ} (there : ∀ k ∈ inner.map (Key.under key get), k ∈ ks)
    (all : ∀ k ∈ ks, k ∈ inner.map (Key.under key get) ∨
      k.name ≠ key ∧ ∀ a s, k.content (set a s) = k.content s)
    (same : ∀ a s, get (set a s) = a) {base : Value → σ} (grounded : ∀ v, get (base v) = ground v) :
    (tableField key read set).Obeys ks base := by
  intro v s fits
  obtain ⟨a, read, holds⟩ :=
    overlays v fun k hk => fits _ (there _ (List.mem_map_of_mem hk)) rfl
  refine ⟨set a s, congrArg (Option.map (set · s)) read, ?_⟩
  intro k hk
  rcases all k hk with inside | ⟨other, keeps⟩
  · obtain ⟨k, within, rfl⟩ := List.mem_map.mp inside
    refine Eq.trans ?_ (if_pos rfl).symm
    change k.content (get (set a s)) = (k.said v).or (k.content (get (base v)))
    rw [same, holds k within, grounded]
  · exact (keeps a s).trans (if_neg other).symm

theorem elsewhere {υ : Type} {here : List (Key σ)} {others : List (Key υ)} {name key : String}
    {get : σ → υ} {set : τ → σ → σ} (apart : name ≠ key) (keeps : ∀ a s, get (set a s) = get s) :
    ∀ k ∈ others.map (Key.under name get),
      k ∈ here ∨ k.name ≠ key ∧ ∀ a s, k.content (set a s) = k.content s :=
  List.forall_mem_map.mpr fun k _ => .inr ⟨apart, fun a s => congrArg k.content (keeps a s)⟩

section Section

variable {ks : List (Key σ)} {fields : List (Field σ)} {base : Value → σ} {default : σ}

theorem readFields_concat (entries : Toml.Table) (key : String) (v : Value) :
    readFields fields default (.table (entries ++ [(key, v)])) =
      (readFields fields default (.table entries)).bind fun s =>
        match fields.find? (·.key == key) with
        | some f => f.read v s
        | none => some s := by
  rw [readFields, List.foldlM_append, readFields]
  simp only [List.foldlM_cons, List.foldlM_nil, bind_pure]
  rfl

theorem readFields_table (obeys : ∀ f ∈ fields, f.Obeys ks base)
    (known : ∀ k ∈ ks, ∃ f ∈ fields, f.key = k.name) (entries : Toml.Table)
    (fits : ∀ k ∈ ks, ∀ v, (k.name, v) ∈ entries → FitsAt k.kind k.below v) :
    ∃ s, readFields fields default (.table entries) = some s ∧ ∀ k ∈ ks, k.content s =
      match entries.reverse.lookup k.name with
      | some v => (k.saidBelow v).or (k.content (base v))
      | none => k.content default := by
  -- the induction is from the end of the table, since its last entry is the one that counts
  induction entries using List.reverseRecOn with
  | nil => exact ⟨default, rfl, fun _ _ => rfl⟩
  | append_singleton entries entry ih =>
    obtain ⟨key, v⟩ := entry
    obtain ⟨s, before, holds⟩ :=
      ih fun k hk v hv => fits k hk v (List.mem_append_left _ hv)
    rw [readFields_concat, before, Option.bind_some, List.reverse_concat]
    cases found : fields.find? (·.key == key) with
    | none =>
      refine ⟨s, rfl, fun k hk => ?_⟩
      have other : k.name ≠ key := by
        rintro rfl
        obtain ⟨f, hf, name⟩ := known k hk
        have := List.find?_eq_none.mp found f hf
        simp [name] at this
      rw [List.lookup_cons, beq_eq_false_iff_ne.mpr other]
      exact holds k hk
    | some f =>
      have name : f.key = key := by simpa using List.find?_some found
      subst name
      obtain ⟨s', read, after⟩ := obeys f (List.mem_of_find?_eq_some found) v s
        fun k hk same => fits k hk v (by rw [same]; simp)
      refine ⟨s', read, fun k hk => ?_⟩
      rw [after k hk, List.lookup_cons]
      split
      · next same => rw [same, beq_self_eq_true]
      · next other =>
        rw [beq_eq_false_iff_ne.mpr other]
        exact holds k hk

theorem overlays_readFields {ground : Value → σ} (obeys : ∀ f ∈ fields, f.Obeys ks base)
    (known : ∀ k ∈ ks, ∃ f ∈ fields, f.key = k.name) (full : ks ≠ [])
    (grounded : ∀ entries, ∀ k ∈ ks, k.content (ground (.table entries)) =
      match entries.reverse.lookup k.name with
      | some v => k.content (base v)
      | none => k.content default) :
    Overlays ks ground (readFields fields default) := by
  intro v fits
  obtain ⟨k, hk⟩ := List.exists_mem_of_ne_nil ks full
  obtain ⟨entries, rfl, -⟩ := fitsAt_cons.mp (fits k hk)
  have below : ∀ k ∈ ks, ∀ v, (k.name, v) ∈ entries → FitsAt k.kind k.below v := by
    intro k hk v hv
    obtain ⟨_, same, fit⟩ := fitsAt_cons.mp (fits k hk)
    cases same
    exact fit v hv
  obtain ⟨s, read, holds⟩ := readFields_table obeys known entries below
  refine ⟨s, read, fun k hk => ?_⟩
  rw [holds k hk, grounded entries k hk, Key.said, Key.path, at?]
  cases entries.reverse.lookup k.name <;> rfl

end Section

end EventRelay.Config
