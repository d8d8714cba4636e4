import EventRelay.Proofs.Files.Growth

namespace EventRelay.FileSystem

variable {fs : FileSystem} {path : Path} {l m : Location}

/-- A path that ends with a name, at which a file can stand, and not with a slash. -/
structure EndsIn (path : Path) (before : List String) (last : String) : Prop where
  fault : textFault? path = none
  pieces : path.pieces = before ++ [last]
  shown : last ≠ ""
  plain : ¬ (last = "." ∨ last = "..")
  slash : path.text.endsWith "/" = false

theorem endsIn_of_target {t : Target} (ht : fs.target path = .ok t) (slash : t.slash = false) :
    ∃ before last, EndsIn path before last ∧ t.name = some last ∧
      fs.descend (fs.start path) (before.filter (!·.isEmpty)) = .ok t.directory := by
  rw [target_eq] at ht
  cases fault : textFault? path with
  | some e => rw [fault] at ht; cases ht
  | none =>
    rw [fault] at ht
    simp only [lastStep] at ht
    cases found : path.names.getLast? with
    | none =>
      rw [found] at ht
      cases ht
      cases slash
    | some last =>
      rw [found] at ht
      simp only at ht
      split at ht
      · cases hd : fs.descend (fs.start path) path.names with
        | error e => rw [hd] at ht; cases ht
        | ok d =>
          rw [hd] at ht
          cases ht
          cases slash
      · next dots =>
        cases hd : fs.descend (fs.start path) path.names.dropLast with
        | error e => rw [hd] at ht; cases ht
        | ok d =>
          rw [hd] at ht
          cases ht
          obtain ⟨before, pieces, shown⟩ := path.exists_concat found slash
          refine ⟨before, last, ⟨fault, pieces, shown, dots, slash⟩, rfl, ?_⟩
          rw [← hd, Path.names, pieces, List.filter_append]
          simp [shown]

theorem EndsIn.target {before : List String} {last : String} (h : EndsIn path before last)
    (fs : FileSystem) :
    fs.target path = (fs.descend (fs.start path) (before.filter (!·.isEmpty))).map fun l =>
      ⟨l, some last, false⟩ := by
  have names : path.names = before.filter (!·.isEmpty) ++ [last] := by
    rw [Path.names, h.pieces, List.filter_append]
    simp [h.shown]
  exact target_of_names fs _ h.fault names h.plain h.slash

theorem textFault?_of_append {q : Path} {more : String} (fault : textFault? path = none)
    (text : path.text = q.text ++ more) (nonempty : q.text.isEmpty = false) :
    textFault? q = none := by
  unfold textFault? at fault ⊢
  split at fault
  · cases fault
  · split at fault
    · cases fault
    · next zero =>
      split at fault
      · cases fault
      · next long =>
        rw [text, String.toList_append] at zero
        rw [text, String.utf8ByteSize_append] at long
        rw [if_neg (by simp [nonempty]), if_neg (by simp_all), if_neg (by omega)]

theorem descend_dots {names : List String} (dots : ∀ name ∈ names, name = ".") :
    fs.descend l names = .ok l := by
  induction names with
  | nil => rfl
  | cons name names ih =>
    rw [List.forall_mem_cons] at dots
    rw [descend, if_pos dots.1]
    exact ih dots.2

theorem descend_of_idle {kept idle : List String}
    (dots : ∀ piece ∈ idle, piece = "" ∨ piece = ".") :
    fs.descend l ((kept ++ idle).filter (!·.isEmpty)) =
      fs.descend l (kept.filter (!·.isEmpty)) := by
  rw [List.filter_append, descend_append]
  cases fs.descend l (kept.filter (!·.isEmpty)) with
  | error e => rfl
  | ok d =>
    refine descend_dots fun name mem => ?_
    obtain ⟨mem, full⟩ := List.mem_filter.mp mem
    refine (dots name mem).resolve_left ?_
    rintro rfl
    cases full

theorem descend_of_find (found : fs.find path = .ok (l, .directory)) :
    fs.descend (fs.start path) path.names = .ok l := by
  obtain ⟨t, ht, fits, rfl, node, -⟩ := find_eq_ok_iff.mp found
  rw [target_eq] at ht
  cases fault : textFault? path with
  | some e => rw [fault] at ht; cases ht
  | none =>
    rw [fault] at ht
    simp only [lastStep] at ht
    cases final : path.names.getLast? with
    | none =>
      rw [final] at ht
      cases ht
      rw [List.getLast?_eq_none_iff.mp final]
      rfl
    | some last =>
      rw [final] at ht
      simp only at ht
      split at ht
      · cases walk : fs.descend (fs.start path) path.names with
        | error e => rw [walk] at ht; cases ht
        | ok d =>
          rw [walk] at ht
          cases ht
          rfl
      · next dots =>
        obtain ⟨before, names⟩ := List.getLast?_eq_some_iff.mp final
        rw [names, List.dropLast_concat] at ht
        cases walk : fs.descend (fs.start path) before with
        | error e => rw [walk] at ht; cases ht
        | ok d =>
          rw [walk] at ht
          cases ht
          have short : ¬ maxName < last.utf8ByteSize := by simpa [Target.Fits] using fits
          have there : fs.node? (d.child last) = some .directory := node
          rw [names, descend_append, walk]
          simp only [Except.bind, descend]
          rw [if_neg (fun e => dots (.inl e)), if_neg (fun e => dots (.inr e)), if_neg short, there]
          rfl

theorem find_slash (fs : FileSystem) : fs.find ⟨"/"⟩ = .ok (.root, .directory) := by
  have pieces : (⟨"/"⟩ : Path).pieces = ["", ""] := Path.pieces_eq ⟨"/"⟩
  have target : fs.target ⟨"/"⟩ = .ok ⟨.root, none, true⟩ := by
    have fault : textFault? ⟨"/"⟩ = none := by decide
    rw [target_eq, fault, lastStep, Path.names, pieces]
    rfl
  exact find_eq_ok_iff.mpr ⟨_, target, rfl, rfl, node?_root, fun h => absurd rfl h⟩

theorem hasParent_iff_of_parent {parent : Path} (named : path.parent? = some parent)
    (nonempty : parent.text.isEmpty = false) :
    fs.HasParent path ↔ ∃ l, fs.find parent = .ok (l, .directory) := by
  constructor
  · exact fun h => h parent named nonempty
  · intro there other named' _
    rw [named] at named'
    cases named'
    exact there

theorem hasParent_of_idle {before : List String} {last : String}
    (pieces : path.pieces = before ++ [last]) (shown : last ≠ "") (plain : last ≠ ".")
    (idle : before = [] ∨ Path.trimPieces before = [""]) : fs.HasParent path := by
  cases before with
  | nil =>
    intro parent named nonempty
    rw [Path.parent?, pieces] at named
    change (if _ then none else some (Path.mk "")) = some parent at named
    split at named
    · cases named
    · cases named
      cases nonempty
  | cons first rest =>
    -- only slashes and dots stand before the name
    have named := Path.parent?_concat pieces shown plain
    rw [if_pos (idle.resolve_left (List.cons_ne_nil _ _))] at named
    exact (hasParent_iff_of_parent named (by decide)).mpr ⟨.root, fs.find_slash⟩

theorem IsName.hasParent {name : String} (h : IsName path name) : fs.HasParent path := by
  have ends : path.names.getLast? = some name := by rw [h.names, List.getLast?_singleton]
  obtain ⟨before, pieces, shown⟩ := path.exists_concat ends h.slash
  have bare : ∀ piece ∈ before, piece = "" := by
    have last : [name].filter (!·.isEmpty) = [name] := by simp [shown]
    have names := h.names
    rw [Path.names, pieces, List.filter_append, last] at names
    simpa using names
  refine hasParent_of_idle pieces shown (fun dot => h.plain (.inl dot)) ?_
  cases before with
  | nil => exact .inl rfl
  | cons first rest =>
    obtain ⟨kept, idle, trimmed, rfl, -, most⟩ := Path.trimPieces_cons first rest
    have none : kept = [] := by
      by_contra some
      obtain ⟨piece, mem, full⟩ := most some
      rw [bare piece (List.mem_cons_of_mem _ (List.mem_append_left _ mem))] at full
      cases full
    refine .inr ?_
    rw [trimmed, none, bare first List.mem_cons_self]

theorem EndsIn.hasParent_iff {before : List String} {last : String} (h : EndsIn path before last)
    (tree : fs.IsTree) :
    fs.HasParent path ↔ ∃ d, fs.descend (fs.start path) (before.filter (!·.isEmpty)) = .ok d := by
  have undotted : last ≠ "." := fun dot => h.plain (.inl dot)
  cases before with
  | nil => exact iff_of_true (hasParent_of_idle h.pieces h.shown undotted (.inl rfl)) ⟨_, rfl⟩
  | cons first rest =>
    have named := Path.parent?_concat h.pieces h.shown undotted
    obtain ⟨kept, idle, trimmed, rfl, dots, most⟩ := Path.trimPieces_cons first rest
    rw [trimmed] at named
    rw [← List.cons_append, descend_of_idle dots]
    split at named
    · next root =>
      have present : fs.HasParent path :=
        hasParent_of_idle h.pieces h.shown undotted (.inr (trimmed.trans root))
      obtain ⟨rfl, rfl⟩ := List.cons.inj root
      exact iff_of_true present ⟨_, rfl⟩
    · next longer =>
      have more : first ≠ "" ∨ kept ≠ [] := by
        by_contra none
        simp_all
      obtain ⟨begun, absolute, behind, text⟩ := Path.begins_of_pieces h.pieces more
      have nonempty : ("/".intercalate (first :: kept)).isEmpty = false := by
        rw [Bool.eq_false_iff]
        intro empty
        have alone : (⟨""⟩ : Path).pieces = [""] := Path.pieces_eq ⟨""⟩
        rw [String.isEmpty_iff.mp empty, alone] at begun
        exact longer begun.symm
      have shown : ∃ piece ∈ first :: kept, piece.isEmpty = false := by
        rcases more with full | longer
        · exact ⟨first, List.mem_cons_self, by simpa using full⟩
        · obtain ⟨piece, mem, full⟩ := most longer
          exact ⟨piece, List.mem_cons_of_mem _ mem, full⟩
      obtain ⟨final, hfinal⟩ := Path.exists_getLast?_names (begun ▸ shown)
      have start : fs.start ⟨"/".intercalate (first :: kept)⟩ = fs.start path := by
        rw [FileSystem.start, absolute, ← FileSystem.start]
      have names : (⟨"/".intercalate (first :: kept)⟩ : Path).names =
          (first :: kept).filter (!·.isEmpty) := by rw [Path.names, begun]
      rw [hasParent_iff_of_parent named nonempty, ← start, ← names]
      have fault := textFault?_of_append h.fault text nonempty
      exact exists_congr fun d => ⟨descend_of_find, find_of_descend tree fault hfinal⟩

theorem hasParent_of_find (tree : fs.IsTree) {content : Bytes}
    (found : fs.find path = .ok (l, .file content)) : fs.HasParent path := by
  obtain ⟨t, ht, -, -, -, slash⟩ := find_eq_ok_iff.mp found
  obtain ⟨before, last, ends, -, walk⟩ := endsIn_of_target ht (slash (by simp))
  exact (ends.hasParent_iff tree).mpr ⟨_, walk⟩

theorem endsIn_of_openForWriting {old : Option Bytes}
    (opens : fs.openForWriting path = .ok (l, old)) :
    ∃ before last, EndsIn path before last ∧ last.utf8ByteSize ≤ maxName := by
  obtain ⟨t, ht, fits, -, -, slash⟩ := openForWriting_eq_ok_iff.mp opens
  obtain ⟨before, last, ends, name, -⟩ := endsIn_of_target ht slash
  exact ⟨before, last, ends, by simpa [Target.Fits, name] using fits⟩

theorem EndsIn.opens_iff {before : List String} {last : String} (h : EndsIn path before last)
    (short : last.utf8ByteSize ≤ maxName) (tree : fs.IsTree) {old : Option Bytes} :
    (∃ l, fs.openForWriting path = .ok (l, old)) ↔ match old with
      | some content => ∃ l, fs.find path = .ok (l, .file content)
      | none => fs.find path = .error .notFound ∧ fs.HasParent path := by
  cases old with
  | some content => exact exists_congr fun l => ⟨find_of_openForWriting, openForWriting_of_find⟩
  | none =>
    rw [h.hasParent_iff tree]
    constructor
    · rintro ⟨l, opens⟩
      obtain ⟨t, ht, -, -, -, slash⟩ := openForWriting_eq_ok_iff.mp opens
      refine ⟨missing_of_openForWriting opens, ?_⟩
      rw [h.target] at ht
      cases walk : fs.descend (fs.start path) (before.filter (!·.isEmpty)) with
      | error e => rw [walk] at ht; cases ht
      | ok d => exact ⟨d, rfl⟩
    · rintro ⟨missing, d, walk⟩
      have target : fs.target path = .ok ⟨d, some last, false⟩ := by rw [h.target, walk]; rfl
      have fits : (⟨d, some last, false⟩ : Target).Fits := by simpa [Target.Fits] using short
      refine ⟨d.child last, openForWriting_eq_ok_iff.mpr ⟨_, target, fits, rfl, ?_, rfl⟩⟩
      cases node : fs.node? (d.child last) with
      | none => rfl
      | some there =>
        have found := find_eq_ok_iff.mpr ⟨_, target, fits, rfl, node, fun _ => rfl⟩
        rw [missing] at found
        cases found

end EventRelay.FileSystem
