import Mathlib.Data.List.Infix

namespace EventRelay.Text

def cut? (word : List Char) (s : List Char) : Option (List Char × List Char) :=
  match word.isPrefixOf? s with
  | some rest => some ([], rest)
  | none =>
    match s with
    | [] => none
    | c :: s => (cut? word s).map fun (before, behind) => (c :: before, behind)

def parts (word : List Char) (s : List Char) : List (List Char) :=
  match cut? word s with
  | some (before, behind) =>
    -- an empty word stands everywhere, and leaves as much behind
    if behind.length < s.length then before :: parts word behind else [s]
  | none => [s]
termination_by s.length

variable {first : Char} {more part s before behind : List Char}

theorem cut?_word (word s : List Char) : cut? word (word ++ s) = some ([], s) := by
  have found : word.isPrefixOf? (word ++ s) = some s :=
    List.isPrefixOf?_eq_some_iff_append_eq.mpr rfl
  rw [cut?.eq_def, found]

theorem cut?_cons {c : Char} (other : c ≠ first) (s : List Char) :
    cut? (first :: more) (c :: s) =
      (cut? (first :: more) s).map fun (before, behind) => (c :: before, behind) := by
  rw [cut?]
  simp [List.isPrefixOf?, Ne.symm other]

theorem cut?_behind (free : first ∉ part) (h : cut? (first :: more) s = some (before, behind)) :
    cut? (first :: more) (part ++ s) = some (part ++ before, behind) := by
  induction part with
  | nil => exact h
  | cons c part ih =>
    rw [List.mem_cons, not_or] at free
    rw [List.cons_append, cut?_cons (Ne.symm free.1), ih free.2]
    rfl

theorem cut?_eq_none (free : first ∉ part) : cut? (first :: more) part = none := by
  induction part with
  | nil => rfl
  | cons c part ih =>
    rw [List.mem_cons, not_or] at free
    rw [cut?_cons (Ne.symm free.1), ih free.2]
    rfl

theorem parts_append (free : first ∉ part) (s : List Char) :
    parts (first :: more) (part ++ (first :: more ++ s)) = part :: parts (first :: more) s := by
  have found := cut?_behind free (cut?_word (first :: more) s)
  have shorter : s.length < (part ++ (first :: more ++ s)).length := by
    simp only [List.length_append, List.length_cons]
    omega
  rw [List.append_nil] at found
  rw [parts, found]
  simp only [shorter, if_true]

theorem parts_intercalate {ps : List (List Char)} (free : ∀ p ∈ ps, first ∉ p) (some : ps ≠ []) :
    parts (first :: more) (List.intercalate (first :: more) ps) = ps := by
  induction ps with
  | nil => exact absurd rfl some
  | cons p ps ih =>
    rw [List.forall_mem_cons] at free
    cases ps with
    | nil => rw [List.intercalate_singleton, parts, cut?_eq_none free.1]
    | cons q ps =>
      rw [List.intercalate_cons_cons, List.append_assoc, parts_append free.1, ih free.2 (by simp)]

end EventRelay.Text
