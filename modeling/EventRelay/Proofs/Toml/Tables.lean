import EventRelay.Proofs.Toml.Statements
import Mathlib.Data.List.Nodup

/-!
The tables that sections build up. Main statement: sections that stand in depth-first order, under
names that differ from their neighbours, build the tables of a tree.
-/

namespace EventRelay.Toml

namespace Entries

variable {es : Entries} {key name : String}

theorem get?_concat (fresh : es.get? key = none) (e : Entry) :
    Entries.get? (es ++ [(key, e)]) key = some e := by
  rw [get?] at fresh ⊢
  rw [List.lookup_append, fresh]
  simp

theorem get?_concat_of_ne (fresh : es.get? key = none) (other : key ≠ name) (e : Entry) :
    Entries.get? (es ++ [(name, e)]) key = none := by
  rw [get?] at fresh ⊢
  rw [List.lookup_append, fresh]
  simpa using other

theorem set_concat (fresh : es.get? key = none) (e e' : Entry) :
    Entries.set (es ++ [(key, e)]) key e' = es ++ [(key, e')] := by
  have other : ∀ p ∈ es, (if p.1 == key then (key, e') else p) = p := by
    intro p hp
    rw [get?, List.lookup_eq_none_iff] at fresh
    exact if_neg fun same => bne_iff_ne.mp (fresh p hp) (beq_iff_eq.mp same).symm
  rw [set, get?_concat fresh, Option.isSome_some, if_pos rfl, List.map_append,
    List.map_congr_left other]
  simp

theorem within_concat (fresh : es.get? name = none) (implicit dotted : Bool) (inner : Entries)
    (f : Entries → Option Entries) (path : List String) :
    Entries.within (es ++ [(name, .table implicit dotted inner)]) f (name :: path) =
      (inner.within f path).map fun inner => es ++ [(name, .table implicit dotted inner)] := by
  rw [within, get?_concat fresh]
  dsimp only
  cases inner.within f path with
  | none => rfl
  | some inner' => exact congrArg some (set_concat fresh _ _)

/-- The entries of a document whose last tables are open: each holds the next one at its end. -/
def nest : List (Entries × String) → Entries → Entries
  | [], es => es
  | (es, name) :: above, inner => es ++ [(name, .table false false (nest above inner))]

theorem nest_append (above below : List (Entries × String)) (es : Entries) :
    nest (above ++ below) es = nest above (nest below es) := by
  induction above with
  | nil => rfl
  | cons p above ih => rw [List.cons_append, nest, nest, ih]

theorem within_nest {above : List (Entries × String)} (fresh : ∀ p ∈ above, p.1.get? p.2 = none)
    (f : Entries → Option Entries) (es : Entries) :
    (nest above es).within f (above.map Prod.snd) = (f es).map (nest above) := by
  induction above with
  | nil => exact Option.map_id'.symm
  | cons p above ih =>
    obtain ⟨first, fresh⟩ := List.forall_mem_cons.mp fresh
    rw [nest, List.map_cons, within_concat first, ih fresh, Option.map_map]
    rfl

def ofAssignments (assignments : List (String × Scalar)) : Entries :=
  assignments.map fun a => (a.1, .value a.2.value)

theorem get?_ofAssignments {assignments : List (String × Scalar)}
    (fresh : key ∉ assignments.map Prod.fst) : (ofAssignments assignments).get? key = none := by
  rw [get?, List.lookup_eq_none_iff, ofAssignments, List.forall_mem_map]
  exact fun a ha => bne_iff_ne.mpr fun same => fresh (List.mem_map.mpr ⟨a, ha, same.symm⟩)

end Entries

open Entries

variable {above : List (Entries × String)} {es : Entries} {key : String}
  {done assignments : List (String × Scalar)}

theorem build_assignments (fresh : ∀ p ∈ above, p.1.get? p.2 = none)
    (distinct : ((done ++ assignments).map Prod.fst).Nodup) :
    (assignments.map fun a => Statement.assignment [a.1] a.2.value).foldlM Builder.step
        { root := nest above (ofAssignments done), current := above.map Prod.snd } =
      some { root := nest above (ofAssignments (done ++ assignments))
             current := above.map Prod.snd } := by
  induction assignments generalizing done with
  | nil => rw [List.append_nil]; rfl
  | cons a assignments ih =>
    rw [List.append_cons] at distinct ⊢
    have free : a.1 ∉ done.map Prod.fst := by
      rw [List.map_append, List.map_append, List.append_assoc, List.nodup_append] at distinct
      exact fun there => distinct.2.2 _ there _ List.mem_cons_self rfl
    have assigned : (ofAssignments done).assign [a.1] a.2.value =
        some (ofAssignments (done ++ [a])) := by
      change (if ((ofAssignments done).get? a.1).isNone then
        some (ofAssignments done ++ [(a.1, .value a.2.value)]) else none) = _
      rw [get?_ofAssignments free, if_pos Option.isNone_none, ofAssignments, ofAssignments,
        List.map_append]
      rfl
    have step : Builder.step { root := nest above (ofAssignments done)
                               current := above.map Prod.snd } (.assignment [a.1] a.2.value) =
        some { root := nest above (ofAssignments (done ++ [a])), current := above.map Prod.snd } := by
      rw [Builder.step, within_nest fresh, assigned]
      rfl
    rw [List.map_cons, List.foldlM_cons, step]
    exact ih distinct

def Builds (b : Builder) (sections : List (Section × List String)) (b' : Builder) : Prop :=
  (statementsOf sections).foldlM Builder.step b = some b'

theorem Builds.append {b b' b'' : Builder} {sections sections' : List (Section × List String)}
    (first : Builds b sections b') (rest : Builds b' sections' b'') :
    Builds b (sections ++ sections') b'' := by
  rw [Builds, statementsOf, List.flatMap_append, List.foldlM_append]
  exact (congrArg (· >>= _) first).trans rest

theorem Builds.one {t : Section} (fresh : ∀ p ∈ above, p.1.get? p.2 = none)
    (free : es.get? key = none) (distinct : (t.assignments.map Prod.fst).Nodup)
    (current : List String) :
    Builds { root := nest above es, current } [(t, above.map Prod.snd ++ [key])]
      { root := nest (above ++ [(es, key)]) (ofAssignments t.assignments)
        current := above.map Prod.snd ++ [key] } := by
  have opened : es.openTable key = some (es ++ [(key, .table false false [])]) := by
    rw [openTable, free]
  have header : Builder.step { root := nest above es, current }
      (.header (above.map Prod.snd ++ [key])) =
      some { root := nest (above ++ [(es, key)]) (ofAssignments [])
             current := above.map Prod.snd ++ [key] } := by
    rw [Builder.step, List.getLastD_concat, List.dropLast_concat, within_nest fresh, opened,
      nest_append]
    rfl
  have names : above.map Prod.snd ++ [key] = (above ++ [(es, key)]).map Prod.snd := by simp
  have single (path : List String) : statementsOf [(t, path)] = t.statements path :=
    List.flatMap_singleton _ _
  rw [Builds, single, Section.statements, List.foldlM_cons, header, names]
  refine build_assignments ?_ distinct
  exact List.forall_mem_append.mpr ⟨fresh, List.forall_mem_singleton.mpr free⟩

theorem Builds.tableOf {sections : List (Section × List String)} {b : Builder}
    (h : Builds {} sections b) : tableOf (statementsOf sections) = some (entryValues b.root) := by
  rw [Toml.tableOf, h]
  rfl

theorem entryValues_append (es fs : Entries) :
    entryValues (es ++ fs) = entryValues es ++ entryValues fs := by
  induction es with
  | nil => rfl
  | cons e es ih =>
    obtain ⟨key, e⟩ := e
    rw [List.cons_append, entryValues, ih, entryValues, List.cons_append]

theorem entryValues_ofAssignments (assignments : List (String × Scalar)) :
    entryValues (ofAssignments assignments) = assignments.map fun a => (a.1, a.2.value) := by
  induction assignments with
  | nil => rfl
  | cons a assignments ih =>
    rw [List.map_cons, ← ih, ofAssignments, List.map_cons, entryValues, Entry.toValue]
    rfl

inductive Forest
  | nil
  | cons (key : String) (t : Section) (below next : Forest)

namespace Forest

def sections (path : List String) : Forest → List (Section × List String)
  | nil => []
  | cons key t below next =>
    (t, path ++ [key]) :: (below.sections (path ++ [key]) ++ next.sections path)

/-- Names differ: those of sections from their neighbours and from what is assigned beside them. -/
def Distinct (taken : List String) : Forest → Prop
  | nil => True
  | cons key t below next => key ∉ taken ∧ (t.assignments.map Prod.fst).Nodup ∧
    below.Distinct (t.assignments.map Prod.fst) ∧ next.Distinct (key :: taken)

def entries : Forest → Entries
  | nil => []
  | cons key t below next =>
    (key, .table false false (ofAssignments t.assignments ++ below.entries)) :: next.entries

def table : Forest → Table
  | nil => []
  | cons key t below next =>
    (key, .table (t.assignments.map (fun a => (a.1, a.2.value)) ++ below.table)) :: next.table

theorem builds (above : List (Entries × String)) (es : Entries) {forest : Forest}
    {taken : List String} (distinct : forest.Distinct taken)
    (fresh : ∀ p ∈ above, p.1.get? p.2 = none) (free : ∀ key ∉ taken, es.get? key = none)
    (current : List String) :
    ∃ current', Builds { root := nest above es, current } (forest.sections (above.map Prod.snd))
      { root := nest above (es ++ forest.entries), current := current' } := by
  -- a section sees the names before it, those below see what is assigned in it
  induction forest generalizing above es taken current with
  | nil =>
    rw [entries, List.append_nil]
    exact ⟨current, rfl⟩
  | cons key t below next ihBelow ihNext =>
    obtain ⟨new, different, distinctBelow, distinctNext⟩ := distinct
    have vacant := free key new
    have deeper : ∀ p ∈ above ++ [(es, key)], p.1.get? p.2 = none :=
      List.forall_mem_append.mpr ⟨fresh, List.forall_mem_singleton.mpr vacant⟩
    have freeNext : ∀ other ∉ key :: taken, Entries.get? (es ++ [(key,
        .table false false (ofAssignments t.assignments ++ below.entries))]) other = none := by
      intro other apart
      rw [List.mem_cons, not_or] at apart
      exact get?_concat_of_ne (free other apart.2) apart.1 _
    have first := Builds.one fresh vacant different current
    obtain ⟨inside, middle⟩ := ihBelow _ _ distinctBelow deeper
      (fun _ other => get?_ofAssignments other) (above.map Prod.snd ++ [key])
    obtain ⟨behind, last⟩ := ihNext _ _ distinctNext fresh freeNext inside
    rw [List.map_append, nest_append _ _ (_ ++ _)] at middle
    rw [List.append_assoc] at last
    exact ⟨behind, first.append (middle.append last)⟩

theorem entryValues_entries (forest : Forest) : entryValues forest.entries = forest.table := by
  induction forest with
  | nil => rfl
  | cons key t below next ihBelow ihNext =>
    rw [entries, entryValues, Entry.toValue, entryValues_append, entryValues_ofAssignments, ihBelow,
      ihNext, table]

theorem tableOf_sections {forest : Forest} (distinct : forest.Distinct []) :
    tableOf (statementsOf (forest.sections [])) = some forest.table := by
  obtain ⟨current, builds⟩ := builds [] [] distinct (List.forall_mem_nil _) (fun _ _ => rfl) []
  rw [← entryValues_entries]
  exact Builds.tableOf builds

end Forest

end EventRelay.Toml
