import EventRelay.Proofs.Files.Storage

namespace EventRelay.FileSystem

variable {fs fs' : FileSystem} {path : Path} {l m : Location}

/-- Directories have come to stand where nothing was; all else is as before. -/
structure Grows (fs fs' : FileSystem) : Prop where
  workingDirectory : fs'.workingDirectory = fs.workingDirectory
  at? : ∀ l, fs'.at? l = fs.at? l ∨ fs.at? l = none ∧ fs'.at? l = some .directory

namespace Grows

theorem refl (fs : FileSystem) : Grows fs fs := ⟨rfl, fun _ => .inl rfl⟩

theorem trans {fs'' : FileSystem} (h : Grows fs fs') (h' : Grows fs' fs'') : Grows fs fs'' := by
  refine ⟨h'.workingDirectory.trans h.workingDirectory, fun l => ?_⟩
  rcases h.at? l with same | ⟨none, made⟩
  · rw [← same]
    exact h'.at? l
  · rcases h'.at? l with same' | ⟨none', -⟩
    · exact .inr ⟨none, same'.trans made⟩
    · rw [made] at none'
      cases none'

theorem put_directory (h : fs.node? l = none) : Grows fs (fs.put l .directory) := by
  refine ⟨rfl, fun m => ?_⟩
  by_cases hml : m = l
  · subst hml
    have root : m ≠ .root := ne_root_of_node? (by rw [h]; simp)
    rw [node?_of_ne_root root] at h
    exact .inr ⟨h, if_pos rfl⟩
  · exact .inl (if_neg hml)

theorem node?_of_some (h : Grows fs fs') {node : FileNode} (hl : fs.node? l = some node) :
    fs'.node? l = some node :=
  node?_of_unchanged ((h.at? l).imp_right And.left) hl

theorem keepsDirectories (h : Grows fs fs') : KeepsDirectories fs fs' :=
  ⟨h.workingDirectory, fun _ hl => h.node?_of_some hl⟩

theorem at?_of_file (h : Grows fs fs') {content : Bytes} (hl : fs'.at? l = some (.file content)) :
    fs.at? l = some (.file content) := by
  rcases h.at? l with same | ⟨-, made⟩
  · rw [← same, hl]
  · rw [made] at hl
    cases hl

theorem find_file (h : Grows fs fs') {content : Bytes}
    (found : fs.find path = .ok (l, .file content)) : fs'.find path = .ok (l, .file content) :=
  h.keepsDirectories.find_file found (h.node?_of_some (node?_of_find found))

end Grows

theorem makeDirectory_eq (fs : FileSystem) (path : Path) :
    fs.makeDirectory path = match fs.target path with
      | .error e => .error e
      | .ok t => match fs.look t with
        | .error e => .error e
        | .ok none => .ok (fs.put t.location .directory)
        | .ok (some _) => .error .alreadyExists := by
  unfold makeDirectory
  cases fs.target path with
  | error e => rfl
  | ok t =>
    simp only
    change (fs.look t >>= _) = _
    rcases fs.look t with e | _ | node <;> rfl

theorem grows_makeDirectory (h : fs.makeDirectory path = .ok fs') : Grows fs fs' := by
  rw [makeDirectory_eq] at h
  cases ht : fs.target path with
  | error e => rw [ht] at h; cases h
  | ok t =>
    rw [ht] at h
    simp only at h
    cases hl : fs.look t with
    | error e => rw [hl] at h; cases h
    | ok node =>
      rw [hl] at h
      cases node with
      | some node => cases h
      | none =>
        cases h
        exact Grows.put_directory (look_eq_ok_iff.mp hl).2

theorem grows_makeBelow (fs : FileSystem) (l : Location) (names : List String) :
    Grows fs (fs.makeBelow l names).1 := by
  induction names generalizing fs l with
  | nil => exact Grows.refl fs
  | cons name names ih =>
    rw [makeBelow]
    split
    · exact ih fs l
    · split
      · exact ih fs l.parent
      · split
        · exact Grows.refl fs
        · split
          · exact ih fs _
          · exact Grows.refl fs
          · next none => exact (Grows.put_directory none).trans (ih _ _)

theorem grows_makeDirectories (fs : FileSystem) (path : Path) :
    Grows fs (fs.makeDirectories path).1 := by
  unfold makeDirectories
  split
  · exact Grows.refl fs
  · split
    · next h => exact grows_makeDirectory h
    · exact grows_makeBelow _ _ _
    · exact Grows.refl fs

theorem grows_makeParent (fs : FileSystem) (path : Path) (operation : String) :
    Grows fs (fs.makeParent path operation).1 := by
  unfold makeParent
  split
  · exact Grows.refl fs
  · split
    · exact Grows.refl fs
    · exact grows_makeDirectories _ _

/-- Everything stands in a directory, and so does the process. -/
structure IsTree (fs : FileSystem) : Prop where
  workingDirectory : fs.node? fs.workingDirectory = some .directory
  parent : ∀ l node, fs.node? l = some node → fs.node? l.parent = some .directory

namespace IsTree

theorem put (tree : fs.IsTree) (h : fs.node? l ≠ some .directory)
    (inside : fs.node? l.parent = some .directory) (node : FileNode) : (fs.put l node).IsTree := by
  have keeps := KeepsDirectories.put h node
  refine ⟨keeps.node? _ tree.workingDirectory, fun m node' hm => keeps.node? _ ?_⟩
  by_cases hml : m = l
  · rw [hml, inside]
  · rw [node?_put_of_ne hml] at hm
    exact tree.parent m node' hm

theorem start (tree : fs.IsTree) (path : Path) : fs.node? (fs.start path) = some .directory := by
  unfold FileSystem.start
  split
  · exact node?_root
  · exact tree.workingDirectory

theorem descend (tree : fs.IsTree) {names : List String} (hl : fs.node? l = some .directory)
    (h : fs.descend l names = .ok m) : fs.node? m = some .directory := by
  induction names generalizing l with
  | nil => cases h; exact hl
  | cons name names ih =>
    rw [FileSystem.descend] at h
    split at h
    · exact ih hl h
    · split at h
      · exact ih (tree.parent l _ hl) h
      · split at h
        · cases h
        · split at h
          · next hn => exact ih hn h
          · cases h
          · cases h

theorem target (tree : fs.IsTree) {t : Target} (h : fs.target path = .ok t) :
    fs.node? t.directory = some .directory := by
  rw [target_eq] at h
  cases hf : textFault? path with
  | some e => rw [hf] at h; cases h
  | none =>
    rw [hf] at h
    simp only [lastStep] at h
    split at h
    · cases h
      exact tree.start path
    · split at h
      · cases hd : fs.descend (fs.start path) path.names with
        | error e => rw [hd] at h; cases h
        | ok d =>
          rw [hd] at h
          cases h
          exact tree.descend (tree.start path) hd
      · cases hd : fs.descend (fs.start path) path.names.dropLast with
        | error e => rw [hd] at h; cases h
        | ok d =>
          rw [hd] at h
          cases h
          exact tree.descend (tree.start path) hd

theorem parent_of_target (tree : fs.IsTree) {t : Target} (h : fs.target path = .ok t)
    (hn : fs.node? t.location ≠ some .directory) :
    fs.node? t.location.parent = some .directory := by
  have inside := tree.target h
  obtain ⟨directory, name, slash⟩ := t
  cases name with
  | none => exact absurd inside hn
  | some name => exact inside

theorem put_of_openForWriting (tree : fs.IsTree) {old : Option Bytes}
    (h : fs.openForWriting path = .ok (l, old)) (content : Bytes) :
    (fs.put l (.file content)).IsTree := by
  have file := not_directory_of_openForWriting h
  obtain ⟨t, ht, -, rfl, -⟩ := openForWriting_eq_ok_iff.mp h
  exact tree.put file (tree.parent_of_target ht file) _

end IsTree

theorem isTree_empty : FileSystem.empty.IsTree := by
  refine ⟨node?_root, fun l node h => ?_⟩
  by_cases root : l = .root
  · rw [root]
    exact node?_root
  · rw [node?_of_ne_root root] at h
    cases h

theorem descend_append (fs : FileSystem) (l : Location) (before after : List String) :
    fs.descend l (before ++ after) = (fs.descend l before).bind fun d => fs.descend d after := by
  induction before generalizing l with
  | nil => rfl
  | cons name before ih =>
    rw [List.cons_append, descend, descend]
    split
    · exact ih l
    · split
      · exact ih l.parent
      · split
        · rfl
        · split
          · exact ih _
          · rfl
          · rfl

theorem makeBelow_ok {names : List String} (tree : fs.IsTree) (hl : fs.node? l = some .directory)
    (h : fs.makeBelow l names = (fs', .ok ())) : fs'.IsTree ∧ ∃ m, fs'.descend l names = .ok m := by
  induction names generalizing fs l with
  | nil =>
    cases h
    exact ⟨tree, l, rfl⟩
  | cons name names ih =>
    rw [makeBelow] at h
    rw [descend]
    split at h
    · next dot =>
      rw [if_pos dot]
      exact ih tree hl h
    · next dot =>
      rw [if_neg dot]
      split at h
      · next up =>
        -- Two dots lead to the parent, which in a tree is a directory.
        rw [if_pos up]
        exact ih tree (tree.parent l _ hl) h
      · next up =>
        rw [if_neg up]
        split at h
        · cases h
        · next long =>
          rw [if_neg long]
          split at h
          · next hn =>
            have grown := grows_makeBelow fs (l.child name) names
            rw [h] at grown
            rw [grown.node?_of_some hn]
            exact ih tree hn h
          · cases h
          · next none =>
            have fresh : fs.node? (l.child name) ≠ some .directory := by rw [none]; simp
            have made : (fs.put (l.child name) .directory).node? (l.child name) =
                some .directory := node?_put_self (ne_root_of_node? fresh)
            have grown := grows_makeBelow (fs.put (l.child name) .directory) (l.child name) names
            rw [h] at grown
            rw [grown.node?_of_some made]
            exact ih (tree.put fresh hl _) made h

theorem makeDirectory_eq_notFound (nonempty : path.text.isEmpty = false)
    (h : fs.makeDirectory path = .error .notFound) :
    textFault? path = none ∧ ∃ last, path.names.getLast? = some last := by
  rw [makeDirectory_eq, target_eq] at h
  cases hf : textFault? path with
  | some e =>
    rw [hf] at h
    cases h
    unfold textFault? at hf
    rw [nonempty] at hf
    simp only [Bool.false_eq_true, if_false] at hf
    split at hf
    · cases hf
    · split at hf <;> cases hf
  | none =>
    refine ⟨rfl, ?_⟩
    cases hn : path.names.getLast? with
    | some last => exact ⟨last, rfl⟩
    | none =>
      rw [hf] at h
      simp only [lastStep, hn, look, Option.any_none, Bool.false_eq_true, if_false] at h
      split at h
      · next e he => cases he
      · cases h
      · cases h

theorem find_of_descend (tree : fs.IsTree) (fault : textFault? path = none) {last : String}
    (hlast : path.names.getLast? = some last)
    (h : fs.descend (fs.start path) path.names = .ok m) : fs.find path = .ok (m, .directory) := by
  have hm := tree.descend (tree.start path) h
  by_cases dots : last = "." ∨ last = ".."
  · refine find_eq_ok_iff.mpr ⟨⟨m, none, true⟩, ?_, rfl, rfl, hm, fun h => absurd rfl h⟩
    rw [target_eq, fault]
    simp only [lastStep, hlast, if_pos dots, h]
    rfl
  · obtain ⟨before, names⟩ := List.getLast?_eq_some_iff.mp hlast
    have dropped : path.names.dropLast = before := by rw [names, List.dropLast_concat]
    rw [names, descend_append] at h
    cases hd : fs.descend (fs.start path) before with
    | error e => rw [hd] at h; cases h
    | ok d =>
      rw [hd] at h
      simp only [Except.bind, descend] at h
      rw [if_neg (fun e => dots (.inl e)), if_neg (fun e => dots (.inr e))] at h
      split at h
      · cases h
      · next short =>
        split at h
        · cases h
          refine find_eq_ok_iff.mpr
            ⟨⟨d, some last, path.text.endsWith "/"⟩, ?_, ?_, rfl, hm, fun h => absurd rfl h⟩
          · rw [target_eq, fault]
            simp only [lastStep, hlast, if_neg dots, dropped, hd]
            rfl
          · simpa [Target.Fits] using short
        · cases h
        · cases h

theorem makeDirectories_ok (tree : fs.IsTree) (nonempty : path.text.isEmpty = false)
    (h : fs.makeDirectories path = (fs', .ok ())) :
    fs'.IsTree ∧ ∃ l, fs'.find path = .ok (l, .directory) := by
  unfold makeDirectories at h
  rw [nonempty] at h
  simp only [Bool.false_eq_true, if_false] at h
  split at h
  · next made hm =>
    cases h
    rw [makeDirectory_eq] at hm
    cases ht : fs.target path with
    | error e => rw [ht] at hm; cases hm
    | ok t =>
      rw [ht] at hm
      simp only at hm
      split at hm
      · cases hm
      · next hl =>
        cases hm
        obtain ⟨fits, none⟩ := look_eq_ok_iff.mp hl
        have fresh : fs.node? t.location ≠ some .directory := by rw [none]; simp
        refine ⟨tree.put fresh (tree.parent_of_target ht fresh) _, t.location, ?_⟩
        exact find_eq_ok_iff.mpr ⟨t, (KeepsDirectories.put fresh _).target ht, fits, rfl,
          node?_put_self (ne_root_of_node? fresh), fun h => absurd rfl h⟩
      · cases hm
  · next hm =>
    obtain ⟨fault, last, hlast⟩ := makeDirectory_eq_notFound nonempty hm
    obtain ⟨tree', m, hd⟩ := makeBelow_ok tree (tree.start path) h
    have grown := grows_makeBelow fs (fs.start path) path.names
    rw [h] at grown
    rw [← grown.keepsDirectories.start path] at hd
    exact ⟨tree', m, find_of_descend tree' fault hlast hd⟩
  · next e hm =>
    split at h
    · next isDir =>
      cases h
      unfold isDirectory at isDir
      split at isDir
      · next l hl => exact ⟨tree, l, hl⟩
      · cases isDir
    · cases h

theorem makeDirectories_of_find (h : fs.find path = .ok (l, .directory)) :
    fs.makeDirectories path = (fs, .ok ()) := by
  have made : fs.makeDirectory path = .error .alreadyExists := by
    obtain ⟨t, ht, fits, rfl, hn, -⟩ := find_eq_ok_iff.mp h
    rw [makeDirectory_eq, ht]
    simp only [look_eq_ok_iff.mpr ⟨fits, hn⟩]
  have isDir : fs.isDirectory path = true := by rw [isDirectory, h]
  unfold makeDirectories
  split
  · rfl
  · rw [made]

def HasParent (fs : FileSystem) (path : Path) : Prop :=
  ∀ parent, path.parent? = some parent → parent.text.isEmpty = false →
    ∃ l, fs.find parent = .ok (l, .directory)

theorem KeepsDirectories.hasParent (h : KeepsDirectories fs fs') (hp : fs.HasParent path) :
    fs'.HasParent path := by
  intro parent named nonempty
  obtain ⟨l, hl⟩ := hp parent named nonempty
  exact ⟨l, h.find_directory hl⟩

theorem makeParent_ok (tree : fs.IsTree) {operation : String}
    (h : fs.makeParent path operation = (fs', .ok ())) : fs'.IsTree ∧ fs'.HasParent path := by
  unfold makeParent at h
  unfold HasParent
  cases hp : path.parent? with
  | none =>
    rw [hp] at h
    cases h
    exact ⟨tree, fun _ none => by cases none⟩
  | some parent =>
    rw [hp] at h
    simp only at h
    split at h
    · next empty =>
      cases h
      refine ⟨tree, fun _ same nonempty => ?_⟩
      cases same
      rw [empty] at nonempty
      cases nonempty
    · next nonempty =>
      have nonempty : parent.text.isEmpty = false := by simpa using nonempty
      rcases hm : fs.makeDirectories parent with ⟨made, result⟩
      rw [hm] at h
      cases result with
      | error e => cases h
      | ok u =>
        cases h
        obtain ⟨tree', l, hl⟩ := makeDirectories_ok tree nonempty hm
        exact ⟨tree', fun _ same _ => by cases same; exact ⟨l, hl⟩⟩

theorem category_of_makeParent {operation : String} {f : Failure}
    (failed : fs.makeParent path operation = (fs', .error f)) : f.category = .io := by
  unfold makeParent at failed
  cases hp : path.parent? with
  | none => rw [hp] at failed; cases failed
  | some parent =>
    rw [hp] at failed
    simp only at failed
    split at failed
    · cases failed
    · rcases hm : fs.makeDirectories parent with ⟨made', e | u⟩ <;> rw [hm] at failed
      · cases failed
        rfl
      · cases failed

theorem makeParent_of_hasParent (h : fs.HasParent path) (operation : String) :
    fs.makeParent path operation = (fs, .ok ()) := by
  unfold makeParent
  cases hp : path.parent? with
  | none => rfl
  | some parent =>
    simp only
    split
    · rfl
    · next nonempty =>
      obtain ⟨l, hl⟩ := h parent hp (by simpa using nonempty)
      rw [makeDirectories_of_find hl]
      rfl

end EventRelay.FileSystem
