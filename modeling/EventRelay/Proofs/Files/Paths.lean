import EventRelay.Files
import EventRelay.Proofs.Path

namespace EventRelay.FileSystem

def textFault? (path : Path) : Option SystemError :=
  if path.text.isEmpty then some .notFound
  else if path.text.toList.contains '\x00' then some .zeroInName
  else if pathLimit ≤ path.text.utf8ByteSize then some .nameTooLong
  else none

def lastStep (fs : FileSystem) (path : Path) : SystemResult Target :=
  match path.names.getLast? with
  | none => .ok ⟨fs.start path, none, true⟩
  | some last =>
    if last = "." ∨ last = ".." then
      (fs.descend (fs.start path) path.names).map fun l => ⟨l, none, true⟩
    else
      (fs.descend (fs.start path) path.names.dropLast).map fun l =>
        ⟨l, some last, path.text.endsWith "/"⟩

theorem target_eq (fs : FileSystem) (path : Path) :
    fs.target path = match textFault? path with
      | some e => .error e
      | none => fs.lastStep path := by
  unfold target textFault? lastStep
  by_cases empty : path.text.isEmpty = true
  · simp only [empty, if_true]
    rfl
  · by_cases zero : path.text.toList.contains '\x00' = true
    · simp only [empty, zero, if_true]
      rfl
    · by_cases long : pathLimit ≤ path.text.utf8ByteSize
      · simp only [empty, zero, long, if_true]
        rfl
      · simp only [empty, zero, long, if_false]
        cases path.names.getLast? with
        | none => rfl
        | some last =>
          simp only
          split
          · cases fs.descend (fs.start path) path.names <;> rfl
          · cases fs.descend (fs.start path) path.names.dropLast <;> rfl

def Target.Fits (t : Target) : Prop := t.name.any (maxName < ·.utf8ByteSize) = false

instance (t : Target) : Decidable t.Fits := inferInstanceAs (Decidable (_ = false))

theorem look_eq_ok_iff {fs : FileSystem} {t : Target} {node : Option FileNode} :
    fs.look t = .ok node ↔ t.Fits ∧ fs.node? t.location = node := by
  rw [look, Target.Fits]
  cases t.name.any (maxName < ·.utf8ByteSize) with
  | false => simp
  | true => simp

theorem not_fits_of_look {fs : FileSystem} {t : Target} {e : SystemError}
    (h : fs.look t = .error e) : ¬ t.Fits := by
  intro fits
  rw [look_eq_ok_iff.mpr ⟨fits, rfl⟩] at h
  cases h

theorem find_eq (fs : FileSystem) (path : Path) :
    fs.find path = match fs.target path with
      | .error e => .error e
      | .ok t => match fs.look t with
        | .error e => .error e
        | .ok none => .error .notFound
        | .ok (some (.file content)) =>
          if t.slash then .error .notDirectory else .ok (t.location, .file content)
        | .ok (some .directory) => .ok (t.location, .directory) := by
  unfold find
  cases fs.target path with
  | error e => rfl
  | ok t =>
    simp only
    change (fs.look t >>= _) = _
    rcases fs.look t with e | _ | ⟨content⟩ | _
    · rfl
    · rfl
    · cases t.slash <;> rfl
    · rfl

theorem find_eq_ok_iff {fs : FileSystem} {path : Path} {l : Location} {node : FileNode} :
    fs.find path = .ok (l, node) ↔
      ∃ t, fs.target path = .ok t ∧ t.Fits ∧ t.location = l ∧ fs.node? l = some node ∧
        (node ≠ .directory → t.slash = false) := by
  rw [find_eq]
  cases ht : fs.target path with
  | error e => simp
  | ok t =>
    simp only [Except.ok.injEq, exists_eq_left']
    cases hl : fs.look t with
    | error e => simp [not_fits_of_look hl]
    | ok found =>
      obtain ⟨fits, rfl⟩ := look_eq_ok_iff.mp hl
      simp only [fits, true_and]
      rcases hn : fs.node? t.location with _ | ⟨content⟩ | _
      · constructor
        · simp
        · rintro ⟨rfl, h, -⟩
          rw [hn] at h
          cases h
      · cases hs : t.slash with
        | false =>
          simp only [Bool.false_eq_true, if_false, Except.ok.injEq, Prod.mk.injEq]
          constructor
          · rintro ⟨rfl, rfl⟩
            exact ⟨rfl, hn, fun _ => trivial⟩
          · rintro ⟨rfl, h, -⟩
            rw [hn, Option.some.injEq] at h
            exact ⟨rfl, h⟩
        | true =>
          simp only [if_true, reduceCtorEq, false_iff]
          rintro ⟨rfl, h, slash⟩
          rw [hn, Option.some.injEq] at h
          have := slash (by rw [← h]; simp)
          cases this
      · simp only [Except.ok.injEq, Prod.mk.injEq]
        constructor
        · rintro ⟨rfl, rfl⟩
          exact ⟨rfl, hn, fun h => absurd rfl h⟩
        · rintro ⟨rfl, h, -⟩
          rw [hn, Option.some.injEq] at h
          exact ⟨rfl, h⟩

theorem openForWriting_eq (fs : FileSystem) (path : Path) :
    fs.openForWriting path = match fs.target path with
      | .error e => .error e
      | .ok t =>
        if t.slash then .error .isDirectory
        else match fs.look t with
          | .error e => .error e
          | .ok none => .ok (t.location, none)
          | .ok (some (.file content)) => .ok (t.location, some content)
          | .ok (some .directory) => .error .isDirectory := by
  unfold openForWriting
  cases fs.target path with
  | error e => rfl
  | ok t =>
    cases hs : t.slash with
    | true =>
      simp only [hs, if_true]
      change (if t.slash = true then _ else _) = _
      rw [if_pos hs]
      rfl
    | false =>
      simp only [hs, Bool.false_eq_true, if_false]
      change (if t.slash = true then _ else _) = _
      rw [if_neg (by rw [hs]; decide)]
      rcases fs.look t with e | _ | ⟨content⟩ | _ <;> rfl

theorem openForWriting_eq_ok_iff {fs : FileSystem} {path : Path} {l : Location}
    {old : Option Bytes} :
    fs.openForWriting path = .ok (l, old) ↔
      ∃ t, fs.target path = .ok t ∧ t.Fits ∧ t.location = l ∧ fs.node? l = old.map .file ∧
        t.slash = false := by
  rw [openForWriting_eq]
  cases ht : fs.target path with
  | error e => simp
  | ok t =>
    simp only [Except.ok.injEq, exists_eq_left']
    cases hs : t.slash with
    | true => simp
    | false =>
      simp only [Bool.false_eq_true, if_false, and_true]
      cases hl : fs.look t with
      | error e => simp [not_fits_of_look hl]
      | ok found =>
        obtain ⟨fits, rfl⟩ := look_eq_ok_iff.mp hl
        simp only [fits, true_and]
        constructor
        · intro h
          rcases hn : fs.node? t.location with _ | ⟨content⟩ | _ <;> rw [hn] at h <;> cases h
          · exact ⟨rfl, hn⟩
          · exact ⟨rfl, hn⟩
        · rintro ⟨rfl, h⟩
          rw [h]
          cases old <;> rfl

theorem target_of_names {path : Path} {last : String} (fs : FileSystem) (dirs : List String)
    (fault : textFault? path = none) (names : path.names = dirs ++ [last])
    (plain : ¬ (last = "." ∨ last = "..")) (slash : path.text.endsWith "/" = false) :
    fs.target path = (fs.descend (fs.start path) dirs).map fun l => ⟨l, some last, false⟩ := by
  rw [target_eq, fault]
  simp only [lastStep, names, List.getLast?_concat, List.dropLast_concat, if_neg plain, slash]

structure IsName (path : Path) (name : String) : Prop where
  fault : textFault? path = none
  names : path.names = [name]
  plain : ¬ (name = "." ∨ name = "..")
  short : name.utf8ByteSize ≤ maxName
  slash : path.text.endsWith "/" = false

def IsPlain (name : String) : Prop :=
  name.isEmpty = false ∧ ¬ (name = "." ∨ name = "..") ∧ name.utf8ByteSize ≤ maxName ∧
    '/' ∉ name.toList ∧ '\x00' ∉ name.toList

instance : DecidablePred IsPlain := fun _ => inferInstanceAs (Decidable (_ ∧ _))

theorem isName_of_plain (name : String) (h : IsPlain name) : IsName ⟨name⟩ name := by
  obtain ⟨shown, plain, short, slash, zero⟩ := h
  refine ⟨?_, ?_, plain, short, ?_⟩
  · have fits : ¬ pathLimit ≤ name.utf8ByteSize := by
      unfold maxName at short
      unfold pathLimit
      omega
    simp [textFault?, shown, zero, fits]
  · rw [Path.names, Path.pieces_of_slash_not_mem slash]
    simp [shown]
  · have mark : "/".toList = ['/'] := rfl
    rw [Bool.eq_false_iff, ne_eq, String.endsWith_eq_endsWith_toSlice,
      String.Slice.endsWith_string_iff, String.copy_toSlice, mark]
    exact fun ends => slash (ends.subset List.mem_cons_self)

theorem isName_at_root (name : String) (h : IsPlain name) : IsName ⟨"/" ++ name⟩ name := by
  obtain ⟨shown, plain, short, slash, zero⟩ := h
  have mark : "/".toList = ['/'] := rfl
  have text : ("/" ++ name).toList = '/' :: name.toList := by rw [String.toList_append, mark]; rfl
  refine ⟨?_, ?_, plain, short, ?_⟩
  · have fits : ("/" ++ name).utf8ByteSize < pathLimit := by
      have bar : "/".utf8ByteSize = 1 := by decide
      rw [String.utf8ByteSize_append, bar]
      unfold maxName at short
      unfold pathLimit
      omega
    have full : ("/" ++ name).isEmpty = false := by simp
    rw [textFault?, full, text, if_neg Bool.false_ne_true, if_neg (by simpa using zero),
      if_neg (Nat.not_le_of_lt fits)]
  · have joined : "/".intercalate ["", name] = "/" ++ name := by
      simp [String.intercalate_cons_cons, String.intercalate_singleton]
    have free : ∀ piece ∈ ["", name], '/' ∉ piece.toList := by simpa using slash
    rw [Path.names, ← joined, Path.pieces_intercalate free (List.cons_ne_nil _ _)]
    simp [shown]
  · have full : name.toList ≠ [] := by simpa using shown
    rw [Bool.eq_false_iff, ne_eq, String.endsWith_eq_endsWith_toSlice,
      String.Slice.endsWith_string_iff, String.copy_toSlice, text, mark, List.suffix_cons_iff]
    rintro (alone | ends)
    · exact full (List.cons.inj alone).2.symm
    · exact slash (ends.subset List.mem_cons_self)

section Names

variable {path : Path} {name : String} {fs : FileSystem}

theorem IsName.target (h : IsName path name) (fs : FileSystem) :
    fs.target path = .ok ⟨fs.start path, some name, false⟩ := by
  rw [target_of_names fs [] h.fault h.names h.plain h.slash]
  rfl

theorem IsName.fits (h : IsName path name) (fs : FileSystem) :
    (⟨fs.start path, some name, false⟩ : Target).Fits := by
  have := h.short
  simpa [Target.Fits] using this

theorem IsName.find (h : IsName path name) {node : FileNode}
    (there : fs.node? ((fs.start path).child name) = some node) :
    fs.find path = .ok ((fs.start path).child name, node) :=
  find_eq_ok_iff.mpr ⟨_, h.target fs, h.fits fs, rfl, there, fun _ => rfl⟩

theorem IsName.openForWriting (h : IsName path name)
    (vacant : fs.node? ((fs.start path).child name) = none) :
    fs.openForWriting path = .ok ((fs.start path).child name, none) :=
  openForWriting_eq_ok_iff.mpr ⟨_, h.target fs, h.fits fs, rfl, vacant, rfl⟩

theorem IsName.write (h : IsName path name)
    (vacant : fs.node? ((fs.start path).child name) = none) (content : Bytes) :
    fs.write path content = .ok (fs.put ((fs.start path).child name) (.file content)) := by
  unfold FileSystem.write
  rw [h.openForWriting vacant]
  rfl

theorem IsName.exists? (h : IsName path name)
    (vacant : fs.node? ((fs.start path).child name) = none) :
    fs.exists? path = false := by
  have look : fs.look ⟨fs.start path, some name, false⟩ = .ok none :=
    look_eq_ok_iff.mpr ⟨h.fits fs, vacant⟩
  rw [FileSystem.exists?, find_eq, h.target]
  simp only [look]
  rfl

end Names

end EventRelay.FileSystem
