import EventRelay.Proofs.Files.Growth

/-!
The places that paths name, whether or not the directories on the way are there. Main statements:
what comes to light at a path when files are added had its place before, and a path without two
dots hides nothing.
-/

namespace EventRelay

namespace Location

def follow : Location → List String → Location
  | l, [] => l
  | l, name :: names =>
    if name = "." then l.follow names
    else if name = ".." then l.parent.follow names
    else (l.child name).follow names

theorem follow_append (l : Location) (before after : List String) :
    l.follow (before ++ after) = (l.follow before).follow after := by
  induction before generalizing l with
  | nil => rfl
  | cons name before ih =>
    rw [List.cons_append, follow, follow]
    split
    · exact ih l
    · split
      · exact ih l.parent
      · exact ih (l.child name)

theorem follow_name {name : String} (h : ¬ (name = "." ∨ name = "..")) (l : Location) :
    l.follow [name] = l.child name := by
  rw [follow, if_neg fun dot => h (.inl dot), if_neg fun up => h (.inr up)]
  rfl

end Location

namespace FileSystem

variable {fs fs' : FileSystem} {path : Path} {l m : Location}

/-- The place that a path names. -/
def place (fs : FileSystem) (path : Path) : Location := (fs.start path).follow path.names

theorem eq_follow_of_descend {names : List String} (h : fs.descend l names = .ok m) :
    m = l.follow names := by
  induction names generalizing l with
  | nil =>
    cases h
    rfl
  | cons name names ih =>
    rw [descend] at h
    rw [Location.follow]
    split at h
    · next dot => rw [if_pos dot]; exact ih h
    · next dot =>
      rw [if_neg dot]
      split at h
      · next up => rw [if_pos up]; exact ih h
      · next up =>
        rw [if_neg up]
        split at h
        · cases h
        · split at h
          · exact ih h
          · cases h
          · cases h

theorem place_of_target {t : Target} (h : fs.target path = .ok t) : t.location = fs.place path := by
  rw [target_eq] at h
  cases hf : textFault? path with
  | some e => rw [hf] at h; cases h
  | none =>
    rw [hf] at h
    simp only [lastStep] at h
    cases hn : path.names.getLast? with
    | none =>
      rw [hn] at h
      cases h
      rw [place, List.getLast?_eq_none_iff.mp hn]
      rfl
    | some last =>
      rw [hn] at h
      simp only at h
      split at h
      · cases hd : fs.descend (fs.start path) path.names with
        | error e => rw [hd] at h; cases h
        | ok d =>
          rw [hd] at h
          cases h
          exact eq_follow_of_descend hd
      · next plain =>
        obtain ⟨before, names⟩ := List.getLast?_eq_some_iff.mp hn
        rw [names, List.dropLast_concat] at h
        cases hd : fs.descend (fs.start path) before with
        | error e => rw [hd] at h; cases h
        | ok d =>
          rw [hd] at h
          cases h
          rw [place, names, Location.follow_append, Location.follow_name plain,
            ← eq_follow_of_descend hd]
          rfl

theorem place_of_find {node : FileNode} (h : fs.find path = .ok (l, node)) : l = fs.place path := by
  obtain ⟨t, ht, -, rfl, -⟩ := find_eq_ok_iff.mp h
  exact place_of_target ht

theorem place_of_openForWriting {old : Option Bytes} (h : fs.openForWriting path = .ok (l, old)) :
    l = fs.place path := by
  obtain ⟨t, ht, -, rfl, -⟩ := openForWriting_eq_ok_iff.mp h
  exact place_of_target ht

theorem KeepsDirectories.place (h : KeepsDirectories fs fs') (path : Path) :
    fs'.place path = fs.place path := by
  rw [FileSystem.place, FileSystem.place, h.start]

/-- Directories have come to stand where nothing was, and so may have an empty file at `l`. -/
structure Adds (l : Location) (fs fs' : FileSystem) : Prop where
  workingDirectory : fs'.workingDirectory = fs.workingDirectory
  at? : ∀ m, fs'.at? m = fs.at? m ∨
    fs.at? m = none ∧ (fs'.at? m = some .directory ∨ m = l ∧ fs'.at? m = some (.file []))

theorem Grows.adds (h : Grows fs fs') (l : Location) : Adds l fs fs' := by
  refine ⟨h.workingDirectory, fun m => ?_⟩
  rcases h.at? m with same | ⟨none, made⟩
  · exact .inl same
  · exact .inr ⟨none, .inl made⟩

namespace Adds

theorem refl (l : Location) (fs : FileSystem) : Adds l fs fs := (Grows.refl fs).adds l

theorem trans {fs'' : FileSystem} (h : Adds l fs fs') (h' : Adds l fs' fs'') : Adds l fs fs'' := by
  refine ⟨h'.workingDirectory.trans h.workingDirectory, fun m => ?_⟩
  rcases h.at? m with same | ⟨none, there⟩
  · rw [← same]
    exact h'.at? m
  · rcases h'.at? m with same' | ⟨none', -⟩
    · rw [← same'] at there
      exact .inr ⟨none, there⟩
    · rcases there with made | ⟨-, made⟩ <;> rw [made] at none' <;> cases none'

theorem node?_of_some (h : Adds l fs fs') {node : FileNode} (hm : fs.node? m = some node) :
    fs'.node? m = some node :=
  node?_of_unchanged ((h.at? m).imp_right And.left) hm

theorem keepsDirectories (h : Adds l fs fs') : KeepsDirectories fs fs' :=
  ⟨h.workingDirectory, fun _ hm => h.node?_of_some hm⟩

theorem place (h : Adds l fs fs') (path : Path) : fs'.place path = fs.place path :=
  h.keepsDirectories.place path

theorem node?_of_file (h : Adds l fs fs') {content : Bytes}
    (hm : fs'.node? m = some (.file content)) :
    fs.node? m = some (.file content) ∨ m = l ∧ content = [] := by
  have root : m ≠ .root := ne_root_of_node? (by rw [hm]; simp)
  rw [node?_of_ne_root root] at hm ⊢
  rcases h.at? m with same | ⟨-, made | ⟨here, made⟩⟩
  · exact .inl (same ▸ hm)
  · rw [made] at hm
    cases hm
  · rw [made] at hm
    cases hm
    exact .inr ⟨here, rfl⟩

theorem append_nil (h : fs.append path [] = .ok fs') : Adds (fs.place path) fs fs' := by
  unfold FileSystem.append at h
  rcases ho : fs.openForWriting path with e | ⟨k, old⟩ <;> rw [ho] at h <;> cases h
  obtain ⟨_, _, _, _, hn, _⟩ := openForWriting_eq_ok_iff.mp ho
  have root := ne_root_of_node? (not_directory_of_openForWriting ho)
  rw [node?_of_ne_root root] at hn
  refine ⟨rfl, fun m => ?_⟩
  by_cases here : m = k
  · subst here
    rw [← place_of_openForWriting ho]
    have there : (fs.put m (.file (old.getD [] ++ []))).at? m =
        some (.file (old.getD [] ++ [])) := if_pos rfl
    rw [there, hn]
    cases old with
    | none => exact .inr ⟨rfl, .inr ⟨rfl, rfl⟩⟩
    | some content => exact .inl (by simp)
  · exact .inl (if_neg here)

theorem descend_error (h : Adds l fs fs') {names : List String} {e : SystemError}
    (present : e ≠ .notFound) (hm : fs.descend m names = .error e) :
    fs'.descend m names = .error e := by
  induction names generalizing m with
  | nil => cases hm
  | cons name names ih =>
    rw [FileSystem.descend] at hm ⊢
    split at hm
    · next dot => rw [if_pos dot]; exact ih hm
    · next dot =>
      rw [if_neg dot]
      split at hm
      · next up => rw [if_pos up]; exact ih hm
      · next up =>
        rw [if_neg up]
        split at hm
        · next long => rw [if_pos long]; exact hm
        · next long =>
          rw [if_neg long]
          rcases hn : fs.node? (m.child name) with _ | ⟨content⟩ | _ <;> rw [hn] at hm
          · cases hm
            exact absurd rfl present
          · rw [h.node?_of_some hn]
            exact hm
          · rw [h.node?_of_some hn]
            exact ih hm

theorem target_error (h : Adds l fs fs') {e : SystemError} (present : e ≠ .notFound)
    (ht : fs.target path = .error e) : fs'.target path = .error e := by
  rw [target_eq] at ht ⊢
  cases hf : textFault? path with
  | some e => rw [hf] at ht; exact ht
  | none =>
    rw [hf] at ht
    simp only [lastStep] at ht ⊢
    rw [h.keepsDirectories.start]
    cases hn : path.names.getLast? with
    | none => rw [hn] at ht; cases ht
    | some last =>
      rw [hn] at ht
      simp only at ht ⊢
      split at ht
      · next dots =>
        rw [if_pos dots]
        cases hd : fs.descend (fs.start path) path.names with
        | ok d => rw [hd] at ht; cases ht
        | error e' =>
          rw [hd] at ht
          cases ht
          rw [h.descend_error present hd]
          rfl
      · next dots =>
        rw [if_neg dots]
        cases hd : fs.descend (fs.start path) path.names.dropLast with
        | ok d => rw [hd] at ht; cases ht
        | error e' =>
          rw [hd] at ht
          cases ht
          rw [h.descend_error present hd]
          rfl

theorem find_error (h : Adds l fs fs') {e : SystemError} (present : e ≠ .notFound)
    (hf : fs.find path = .error e) : fs'.find path = .error e := by
  rw [find_eq] at hf ⊢
  cases ht : fs.target path with
  | error e' =>
    rw [ht] at hf
    cases hf
    rw [h.target_error present ht]
  | ok t =>
    rw [ht] at hf
    rw [h.keepsDirectories.target ht]
    simp only at hf ⊢
    cases hl : fs.look t with
    | error e' =>
      -- Whether a name is too long does not depend on the files.
      rw [hl] at hf
      have same : fs'.look t = .error e' := by
        unfold FileSystem.look at hl ⊢
        split at hl
        · next long => rw [if_pos long]; exact hl
        · cases hl
      rw [same]
      exact hf
    | ok node =>
      obtain ⟨fits, hn⟩ := look_eq_ok_iff.mp hl
      rw [hl] at hf
      cases node with
      | none =>
        cases hf
        exact absurd rfl present
      | some node =>
        rw [look_eq_ok_iff.mpr ⟨fits, h.node?_of_some hn⟩]
        exact hf

end Adds

/-- A file stands where a path says, but a directory on the way there is missing. -/
def Hides (fs : FileSystem) (path : Path) : Prop :=
  fs.find path = .error .notFound ∧ ∃ content, fs.node? (fs.place path) = some (.file content)

theorem Adds.of_find_file (h : Adds l fs fs') (missing : fs.exists? path = false)
    (bare : ¬ fs.Hides path) {content : Bytes} (found : fs'.find path = .ok (m, .file content)) :
    m = l ∧ content = [] := by
  have here : m = fs.place path := (place_of_find found).trans (h.place path)
  rcases h.node?_of_file (node?_of_find found) with old | new
  · rw [here] at old
    cases hf : fs.find path with
    | ok leads =>
      rw [exists?, hf] at missing
      cases missing
    | error e =>
      by_cases absent : e = .notFound
      · rw [absent] at hf
        exact absurd ⟨hf, content, old⟩ bare
      · rw [h.find_error absent hf] at found
        cases found
  · exact new

namespace IsTree

theorem node?_of_follow (tree : fs.IsTree) {names : List String} (plain : ".." ∉ names)
    {node : FileNode} (there : fs.node? (l.follow names) = some node) :
    fs.node? l = some .directory ∨ fs.node? l = some node := by
  induction names generalizing l with
  | nil => exact .inr there
  | cons name names ih =>
    obtain ⟨first, plain⟩ : name ≠ ".." ∧ ".." ∉ names := by
      simpa [eq_comm] using plain
    rw [Location.follow, if_neg first] at there
    split at there
    · exact ih plain there
    · rcases ih plain there with hn | hn <;> exact .inl (tree.parent _ _ hn)

theorem descend_ne_notFound (tree : fs.IsTree) {names : List String} (plain : ".." ∉ names)
    {node : FileNode} (there : fs.node? (l.follow names) = some node) :
    fs.descend l names ≠ .error .notFound := by
  induction names generalizing l with
  | nil => simp [FileSystem.descend]
  | cons name names ih =>
    obtain ⟨first, plain⟩ : name ≠ ".." ∧ ".." ∉ names := by
      simpa [eq_comm] using plain
    rw [Location.follow, if_neg first] at there
    rw [FileSystem.descend, if_neg first]
    split
    · next dot =>
      rw [if_pos dot] at there
      exact ih plain there
    · next dot =>
      rw [if_neg dot] at there
      split
      · simp
      · rcases tree.node?_of_follow plain there with hn | hn <;> rw [hn]
        · exact ih plain there
        · cases node with
          | file => simp
          | directory => exact ih plain there

theorem lastStep_ne_notFound (tree : fs.IsTree) (plain : ".." ∉ path.names) {content : Bytes}
    (there : fs.node? (fs.place path) = some (.file content)) :
    fs.lastStep path ≠ .error .notFound := by
  unfold FileSystem.lastStep
  cases hn : path.names.getLast? with
  | none => simp
  | some last =>
    simp only
    split
    · have walk := tree.descend_ne_notFound plain there
      cases hd : fs.descend (fs.start path) path.names with
      | ok d => simp [Except.map]
      | error e =>
        rw [hd] at walk
        simpa [Except.map] using walk
    · next dots =>
      obtain ⟨before, names⟩ := List.getLast?_eq_some_iff.mp hn
      rw [place, names, Location.follow_append, Location.follow_name dots] at there
      rw [names] at plain
      have walk := tree.descend_ne_notFound (fun mem => plain (List.mem_append_left _ mem))
        (tree.parent _ _ there)
      rw [names, List.dropLast_concat]
      cases hd : fs.descend (fs.start path) before with
      | ok d => simp [Except.map]
      | error e =>
        rw [hd] at walk
        simpa [Except.map] using walk

theorem not_hides (tree : fs.IsTree) (plain : ".." ∉ path.names) : ¬ fs.Hides path := by
  rintro ⟨missing, content, there⟩
  rw [find_eq, target_eq] at missing
  cases hf : textFault? path with
  | some e =>
    rw [hf] at missing
    cases missing
    have empty : path = ⟨""⟩ := by
      unfold textFault? at hf
      split at hf
      · next empty => cases path; simpa using empty
      · split at hf
        · cases hf
        · split at hf <;> cases hf
    subst empty
    have names : (⟨""⟩ : Path).names = [] := by
      simp +decide [Path.names, Path.pieces, String.splitOn, String.splitOnAux]
    rw [place, names, Location.follow, tree.start] at there
    cases there
  | none =>
    rw [hf] at missing
    have walk := tree.lastStep_ne_notFound plain there
    cases ht : fs.lastStep path with
    | error e =>
      rw [ht] at missing walk
      cases missing
      exact walk rfl
    | ok t =>
      have target : fs.target path = .ok t := by rw [target_eq, hf, ht]
      rw [← place_of_target target] at there
      rw [ht] at missing
      simp only at missing
      cases hl : fs.look t with
      | error e =>
        rw [hl] at missing
        cases missing
        unfold FileSystem.look at hl
        split at hl <;> cases hl
      | ok node =>
        obtain ⟨-, hn⟩ := look_eq_ok_iff.mp hl
        obtain rfl : some (.file content) = node := there.symm.trans hn
        rw [hl] at missing
        simp only at missing
        split at missing <;> cases missing

end IsTree

end FileSystem

end EventRelay
