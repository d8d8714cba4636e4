import EventRelay.Proofs.Files.Paths
import EventRelay.Proofs.Text.Encoding

namespace EventRelay.FileSystem

variable {fs fs' : FileSystem} {path : Path} {l m : Location}

@[simp] theorem node?_root : fs.node? .root = some .directory := if_pos rfl

theorem node?_of_ne_root (h : l ≠ .root) : fs.node? l = fs.at? l := if_neg h

theorem ne_root_of_node? (h : fs.node? l ≠ some .directory) : l ≠ .root := by
  rintro rfl
  exact h node?_root

theorem node?_put_self (h : l ≠ .root) {node : FileNode} : (fs.put l node).node? l = some node := by
  rw [node?_of_ne_root h]
  exact if_pos rfl

theorem node?_put_of_ne (h : m ≠ l) {node : FileNode} : (fs.put l node).node? m = fs.node? m := by
  simp [node?, put, h]

theorem node?_erase_self (h : l ≠ .root) : (fs.erase l).node? l = none := by
  simp [node?, erase, h]

theorem node?_erase_of_ne (h : m ≠ l) : (fs.erase l).node? m = fs.node? m := by
  simp [node?, erase, h]

theorem node?_of_unchanged (h : fs'.at? l = fs.at? l ∨ fs.at? l = none) {node : FileNode}
    (hl : fs.node? l = some node) : fs'.node? l = some node := by
  by_cases root : l = .root
  · subst root
    rw [node?_root] at hl ⊢
    exact hl
  · rw [node?_of_ne_root root] at hl ⊢
    rcases h with same | none
    · rw [same, hl]
    · rw [none] at hl
      cases hl

/-- Every directory of `fs` is one of `fs'`, and both are seen from the same directory. -/
structure KeepsDirectories (fs fs' : FileSystem) : Prop where
  workingDirectory : fs'.workingDirectory = fs.workingDirectory
  node? : ∀ l, fs.node? l = some .directory → fs'.node? l = some .directory

namespace KeepsDirectories

theorem of_ne (workingDirectory : fs'.workingDirectory = fs.workingDirectory)
    (h : fs.node? l ≠ some .directory) (same : ∀ m ≠ l, fs'.node? m = fs.node? m) :
    KeepsDirectories fs fs' := by
  refine ⟨workingDirectory, fun m hm => ?_⟩
  rw [same]
  · exact hm
  · rintro rfl
    exact h hm

theorem put (h : fs.node? l ≠ some .directory) (node : FileNode) :
    KeepsDirectories fs (fs.put l node) :=
  of_ne rfl h fun _ ne => node?_put_of_ne ne

theorem erase (h : fs.node? l ≠ some .directory) : KeepsDirectories fs (fs.erase l) :=
  of_ne rfl h fun _ ne => node?_erase_of_ne ne

theorem start (h : KeepsDirectories fs fs') (path : Path) : fs'.start path = fs.start path := by
  simp [FileSystem.start, h.workingDirectory]

theorem descend (h : KeepsDirectories fs fs') {names : List String}
    (hm : fs.descend l names = .ok m) : fs'.descend l names = .ok m := by
  induction names generalizing l with
  | nil => exact hm
  | cons name names ih =>
    rw [FileSystem.descend] at hm ⊢
    split at hm
    · next dot => rw [if_pos dot]; exact ih hm
    · next dot =>
      rw [if_neg dot]
      split at hm
      · next up => rw [if_pos up]; exact ih hm
      · next up =>
        rw [if_neg up]
        split at hm
        · cases hm
        · next long =>
          rw [if_neg long]
          rcases hn : fs.node? (l.child name) with _ | ⟨content⟩ | _ <;> rw [hn] at hm
          · cases hm
          · cases hm
          · rw [h.node? _ hn]
            exact ih hm

theorem lastStep (h : KeepsDirectories fs fs') {t : Target} (ht : fs.lastStep path = .ok t) :
    fs'.lastStep path = .ok t := by
  unfold FileSystem.lastStep at ht ⊢
  rw [h.start]
  cases hn : path.names.getLast? with
  | none => rw [hn] at ht; exact ht
  | some last =>
    rw [hn] at ht
    simp only at ht ⊢
    split at ht
    · next dots =>
      rw [if_pos dots]
      cases hd : fs.descend (fs.start path) path.names with
      | error e => rw [hd] at ht; cases ht
      | ok l => rw [h.descend hd, ← hd]; exact ht
    · next dots =>
      rw [if_neg dots]
      cases hd : fs.descend (fs.start path) path.names.dropLast with
      | error e => rw [hd] at ht; cases ht
      | ok l => rw [h.descend hd, ← hd]; exact ht

theorem target (h : KeepsDirectories fs fs') {t : Target} (ht : fs.target path = .ok t) :
    fs'.target path = .ok t := by
  rw [target_eq] at ht ⊢
  cases hf : textFault? path with
  | some e => rw [hf] at ht; cases ht
  | none => rw [hf] at ht; exact h.lastStep ht

theorem find_directory (h : KeepsDirectories fs fs') (hl : fs.find path = .ok (l, .directory)) :
    fs'.find path = .ok (l, .directory) := by
  obtain ⟨t, ht, fits, hloc, hn, slash⟩ := find_eq_ok_iff.mp hl
  exact find_eq_ok_iff.mpr ⟨t, h.target ht, fits, hloc, h.node? l hn, slash⟩

theorem find_file (h : KeepsDirectories fs fs') {old new : Bytes}
    (hl : fs.find path = .ok (l, .file old)) (hn : fs'.node? l = some (.file new)) :
    fs'.find path = .ok (l, .file new) := by
  obtain ⟨t, ht, fits, hloc, -, slash⟩ := find_eq_ok_iff.mp hl
  exact find_eq_ok_iff.mpr ⟨t, h.target ht, fits, hloc, hn, fun _ => slash (by simp)⟩

end KeepsDirectories

theorem node?_of_find {node : FileNode} (h : fs.find path = .ok (l, node)) :
    fs.node? l = some node := by
  obtain ⟨_, _, _, _, hn, _⟩ := find_eq_ok_iff.mp h
  exact hn

theorem not_directory_of_find {content : Bytes} (h : fs.find path = .ok (l, .file content)) :
    fs.node? l ≠ some .directory := by
  rw [node?_of_find h]
  simp

theorem not_directory_of_openForWriting {old : Option Bytes}
    (h : fs.openForWriting path = .ok (l, old)) : fs.node? l ≠ some .directory := by
  obtain ⟨_, _, _, _, hn, _⟩ := openForWriting_eq_ok_iff.mp h
  rw [hn]
  cases old <;> simp

theorem read_of_find {content : Bytes} (h : fs.find path = .ok (l, .file content)) :
    fs.read path = .ok content := by
  unfold read
  rw [h]
  rfl

theorem find_of_read {content : Bytes} (h : fs.read path = .ok content) :
    ∃ l, fs.find path = .ok (l, .file content) := by
  unfold read at h
  rcases hf : fs.find path with e | ⟨l, ⟨old⟩ | _⟩ <;> rw [hf] at h <;> cases h
  exact ⟨l, rfl⟩

theorem readText_of_read {content : Bytes} (h : fs.read path = .ok content) :
    fs.readText path = content.toString?.elim (.error .invalidText) .ok := by
  cases text : content.toString? <;> simp only [readText, h, bind, Except.bind, text] <;> rfl

theorem readText_of_find {s : String} (h : fs.find path = .ok (l, .file (.ofString s))) :
    fs.readText path = .ok s := by
  rw [readText_of_read (read_of_find h), Bytes.toString?_ofString]
  rfl

theorem find_of_readText {s : String} (h : fs.readText path = .ok s) :
    ∃ l, fs.find path = .ok (l, .file (.ofString s)) := by
  cases read : fs.read path with
  | error e =>
    simp only [readText, read] at h
    cases h
  | ok content =>
    rw [readText_of_read read] at h
    cases text : content.toString? with
    | none =>
      rw [text] at h
      cases h
    | some s' =>
      rw [text] at h
      cases h
      rw [Bytes.ofString_of_toString? text]
      exact find_of_read read

theorem openForWriting_of_find {content : Bytes} (h : fs.find path = .ok (l, .file content)) :
    fs.openForWriting path = .ok (l, some content) := by
  obtain ⟨t, ht, fits, hloc, hn, slash⟩ := find_eq_ok_iff.mp h
  exact openForWriting_eq_ok_iff.mpr ⟨t, ht, fits, hloc, hn, slash (by simp)⟩

theorem find_of_openForWriting {content : Bytes}
    (h : fs.openForWriting path = .ok (l, some content)) :
    fs.find path = .ok (l, .file content) := by
  obtain ⟨t, ht, fits, hloc, hn, slash⟩ := openForWriting_eq_ok_iff.mp h
  exact find_eq_ok_iff.mpr ⟨t, ht, fits, hloc, hn, fun _ => slash⟩

theorem missing_of_openForWriting (h : fs.openForWriting path = .ok (l, none)) :
    fs.find path = .error .notFound := by
  obtain ⟨t, ht, fits, hloc, hn, slash⟩ := openForWriting_eq_ok_iff.mp h
  have look : fs.look t = .ok none := look_eq_ok_iff.mpr ⟨fits, by rw [hloc]; exact hn⟩
  rw [find_eq, ht]
  simp only [look]

theorem read_of_openForWriting {old : Option Bytes} (h : fs.openForWriting path = .ok (l, old)) :
    fs.read path = match old with
      | some content => .ok content
      | none => .error .notFound := by
  cases old with
  | some content => exact read_of_find (find_of_openForWriting h)
  | none =>
    unfold read
    rw [missing_of_openForWriting h]
    rfl

theorem missing_of_unread {old : Option Bytes} {e : SystemError} (unread : fs.read path = .error e)
    (opens : fs.openForWriting path = .ok (l, old)) : e = .notFound ∧ old = none := by
  have read := read_of_openForWriting opens
  rw [unread] at read
  cases old with
  | some content => cases read
  | none => exact ⟨Except.error.inj read, rfl⟩

theorem find_put_of_openForWriting {old : Option Bytes}
    (h : fs.openForWriting path = .ok (l, old)) (content : Bytes) :
    (fs.put l (.file content)).find path = .ok (l, .file content) := by
  have keeps := KeepsDirectories.put (not_directory_of_openForWriting h) (.file content)
  have root := ne_root_of_node? (not_directory_of_openForWriting h)
  obtain ⟨t, ht, fits, hloc, -, slash⟩ := openForWriting_eq_ok_iff.mp h
  exact find_eq_ok_iff.mpr ⟨t, keeps.target ht, fits, hloc, node?_put_self root, fun _ => slash⟩

theorem find_put {old : Bytes} (h : fs.find path = .ok (l, .file old)) (content : Bytes) :
    (fs.put l (.file content)).find path = .ok (l, .file content) :=
  find_put_of_openForWriting (openForWriting_of_find h) content

theorem find_put_of_ne {content : Bytes} (h : fs.find path = .ok (l, .file content)) (ne : l ≠ m)
    (file : fs.node? m ≠ some .directory) (node : FileNode) :
    (fs.put m node).find path = .ok (l, .file content) :=
  (KeepsDirectories.put file node).find_file h ((node?_put_of_ne ne).trans (node?_of_find h))

theorem find_erase_of_ne {content : Bytes} (h : fs.find path = .ok (l, .file content)) (ne : l ≠ m)
    (file : fs.node? m ≠ some .directory) :
    (fs.erase m).find path = .ok (l, .file content) :=
  (KeepsDirectories.erase file).find_file h ((node?_erase_of_ne ne).trans (node?_of_find h))

theorem removeFile_of_find {content : Bytes} (h : fs.find path = .ok (l, .file content)) :
    fs.removeFile path = .ok (fs.erase l) := by
  rw [removeFile, h]
  rfl

theorem exists?_erase {content : Bytes} (h : fs.find path = .ok (l, .file content)) :
    (fs.erase l).exists? path = false := by
  obtain ⟨t, ht, fits, hloc, -, -⟩ := find_eq_ok_iff.mp h
  have file := not_directory_of_find h
  have gone : (fs.erase l).node? l = none := node?_erase_self (ne_root_of_node? file)
  have look : (fs.erase l).look t = .ok none := look_eq_ok_iff.mpr ⟨fits, hloc ▸ gone⟩
  rw [FileSystem.exists?, find_eq, (KeepsDirectories.erase file).target ht]
  simp only [look]
  rfl

theorem openForWriting_erase {content : Bytes} (h : fs.find path = .ok (l, .file content)) :
    (fs.erase l).openForWriting path = .ok (l, none) := by
  obtain ⟨t, ht, fits, hloc, -, slash⟩ := find_eq_ok_iff.mp h
  have file := not_directory_of_find h
  have gone : (fs.erase l).node? l = none := node?_erase_self (ne_root_of_node? file)
  exact openForWriting_eq_ok_iff.mpr
    ⟨t, (KeepsDirectories.erase file).target ht, fits, hloc, gone, slash (by simp)⟩

theorem at?_of_find {content : Bytes} (h : fs.find path = .ok (l, .file content)) :
    fs.at? l = some (.file content) := by
  rw [← node?_of_ne_root (ne_root_of_node? (not_directory_of_find h))]
  exact node?_of_find h

theorem exists_write_iff {content : Bytes} :
    (∃ fs', fs.write path content = .ok fs') ↔ ∃ l, fs.openForWriting path = .ok l := by
  unfold write
  cases fs.openForWriting path with
  | error e => exact ⟨fun ⟨_, h⟩ => (nomatch h), fun ⟨_, h⟩ => (nomatch h)⟩
  | ok l => exact ⟨fun _ => ⟨l, rfl⟩, fun _ => ⟨_, rfl⟩⟩

theorem read_of_write {content : Bytes} (h : fs.write path content = .ok fs') :
    fs'.read path = .ok content := by
  unfold write at h
  rcases ho : fs.openForWriting path with e | ⟨l, old⟩ <;> rw [ho] at h
  · cases h
  · cases h
    exact read_of_find (find_put_of_openForWriting ho content)

end EventRelay.FileSystem
