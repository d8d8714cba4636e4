import EventRelay.Path
import Mathlib.Data.List.DropRight
import Mathlib.Data.String.Basic

namespace EventRelay.Path

theorem splitOnAux_slash (l m r : List Char) (acc : List String) :
    String.splitOnAux (String.ofList (l ++ m ++ r)) "/" ⟨String.utf8Len l⟩
        ⟨String.utf8Len l + String.utf8Len m⟩ 0 acc =
      acc.reverse ++ (List.splitOnPPrepend (· == '/') r m.reverse).map String.ofList := by
  have slash : String.Pos.Raw.get "/" 0 = '/' := by decide
  have behind : String.Pos.Raw.next "/" 0 = ⟨1⟩ := by decide
  have ended : (String.Pos.Raw.mk 1).atEnd "/" = true := by decide
  -- `m` is what has been read of the piece that is not over yet
  induction r generalizing l m acc with
  | nil =>
    have ends := (String.atEnd_of_valid (l ++ m) []).mpr rfl
    rw [String.utf8Len_append] at ends
    rw [String.splitOnAux, if_pos ends, String.extract_of_valid]
    simp
  | cons c r ih =>
    have here := String.get_of_valid (l ++ m) (c :: r)
    have next := String.next_of_valid (l ++ m) c r
    have inside := mt (String.atEnd_of_valid (l ++ m) (c :: r)).mp (List.cons_ne_nil c r)
    rw [String.utf8Len_append] at here next inside
    rw [String.splitOnAux, if_neg inside, here, slash, behind, if_pos ended, next,
      List.splitOnPPrepend_cons_eq_if]
    by_cases mark : c = '/'
    · subst mark
      have back : (String.Pos.Raw.mk
          (String.utf8Len l + String.utf8Len m + '/'.utf8Size)).unoffsetBy ⟨1⟩ =
        ⟨String.utf8Len l + String.utf8Len m⟩ := rfl
      have rest := ih (l ++ m ++ ['/']) [] (String.ofList m :: acc)
      simp only [back, String.extract_of_valid]
      simpa [-String.ofList_append, ← Nat.add_assoc] using rest
    · have back : (String.Pos.Raw.mk (String.utf8Len l + String.utf8Len m)).unoffsetBy 0 =
        ⟨String.utf8Len l + String.utf8Len m⟩ := rfl
      have rest := ih l (m ++ [c]) acc
      simp only [back, next]
      simpa [-String.ofList_append, ← Nat.add_assoc, mark] using rest

theorem pieces_eq (p : Path) : p.pieces = (p.text.toList.splitOn '/').map String.ofList := by
  have whole := splitOnAux_slash [] [] p.text.toList []
  rw [pieces, String.splitOn, if_neg (by decide), List.splitOn_eq_splitOnP]
  simpa [← List.splitOnP_eq_splitOnPPrepend] using whole

theorem toList_pieces (p : Path) : p.pieces.map String.toList = p.text.toList.splitOn '/' := by
  rw [pieces_eq, List.map_map]
  simp [Function.comp_def]

theorem text_eq (p : Path) : p.text.toList = ['/'].intercalate (p.pieces.map String.toList) := by
  rw [toList_pieces, List.intercalate_splitOn]

theorem pieces_ne_nil (p : Path) : p.pieces ≠ [] := by
  simp [pieces_eq]

theorem not_mem_of_mem_splitOn {cs piece : List Char} (h : piece ∈ cs.splitOn '/') :
    '/' ∉ piece := by
  induction cs generalizing piece with
  | nil => simp_all
  | cons c cs ih =>
    rw [List.splitOn_cons_eq_if_modifyHead] at h
    split at h
    · rcases List.mem_cons.mp h with rfl | mem
      · exact List.not_mem_nil
      · exact ih mem
    · next plain =>
      cases parts : cs.splitOn '/' with
      | nil => exact absurd parts (List.splitOn_ne_nil _ _)
      | cons first rest =>
        rw [parts] at h ih
        rcases List.mem_cons.mp h with rfl | mem
        · simpa [Ne.symm (by simpa using plain)] using ih List.mem_cons_self
        · exact ih (List.mem_cons_of_mem _ mem)

theorem slash_not_mem {p : Path} {piece : String} (h : piece ∈ p.pieces) : '/' ∉ piece.toList :=
  not_mem_of_mem_splitOn (p.toList_pieces ▸ List.mem_map_of_mem h)

theorem pieces_intercalate {ps : List String} (plain : ∀ p ∈ ps, '/' ∉ p.toList) (some : ps ≠ []) :
    pieces ⟨"/".intercalate ps⟩ = ps := by
  have slash : "/".toList = ['/'] := rfl
  have free : ∀ l ∈ ps.map String.toList, '/' ∉ l := by simpa using plain
  rw [pieces_eq, String.toList_intercalate, slash, List.splitOn_intercalate _ free (by simpa),
    List.map_map]
  simp [Function.comp_def]

theorem pieces_of_slash_not_mem {name : String} (plain : '/' ∉ name.toList) :
    pieces ⟨name⟩ = [name] := by
  have whole := pieces_intercalate (List.forall_mem_singleton.mpr plain) (List.cons_ne_nil name [])
  rwa [String.intercalate_singleton] at whole

theorem intercalate_append {xs ys : List (List Char)} (hx : xs ≠ []) (hy : ys ≠ []) :
    ['/'].intercalate (xs ++ ys) = ['/'].intercalate xs ++ '/' :: ['/'].intercalate ys := by
  induction xs with
  | nil => exact absurd rfl hx
  | cons x xs ih =>
    cases xs with
    | nil => rw [List.singleton_append, List.intercalate_cons_of_ne_nil hy]; simp
    | cons x' xs =>
      rw [List.cons_append, List.intercalate_cons_of_ne_nil (by simp), ih (by simp),
        List.intercalate_cons_cons]
      simp

theorem text_append {p : Path} {before after : List String} (pieces : p.pieces = before ++ after)
    (hb : before ≠ []) (ha : after ≠ []) :
    p.text = "/".intercalate before ++ "/" ++ "/".intercalate after := by
  have slash : "/".toList = ['/'] := rfl
  apply String.toList_inj.mp
  rw [text_eq, pieces, List.map_append, intercalate_append (by simpa) (by simpa)]
  simp [String.toList_append, String.toList_intercalate, slash]

theorem endsWith_slash {p : Path} {before : List String} (pieces : p.pieces = before ++ [""])
    (hb : before ≠ []) : p.text.endsWith "/" = true := by
  rw [String.endsWith_eq_endsWith_toSlice, String.Slice.endsWith_string_iff,
    text_append pieces hb (by simp)]
  simp [String.toList_append]

theorem isAbsolute_of_pieces {p : Path} {first : String} {rest : List String}
    (pieces : p.pieces = first :: rest) (more : first ≠ "" ∨ rest ≠ []) :
    p.isAbsolute = first.isEmpty := by
  have plain : '/' ∉ first.toList := slash_not_mem (by rw [pieces]; exact List.mem_cons_self)
  obtain ⟨behind, text⟩ : ∃ behind, p.text.toList = first.toList ++ behind ∧
      (first = "" → behind.head? = some '/') := by
    rw [text_eq, pieces, List.map_cons]
    by_cases last : rest = []
    · rw [last, List.map_nil, List.intercalate_singleton]
      exact ⟨[], by simp, fun empty => absurd empty (more.resolve_right (not_not_intro last))⟩
    · rw [List.intercalate_cons_of_ne_nil (by simpa), List.append_assoc]
      exact ⟨_, rfl, fun _ => rfl⟩
  rw [isAbsolute, text.1]
  cases shown : first.toList with
  | nil =>
    obtain rfl : first = "" := String.toList_eq_nil_iff.mp shown
    rw [List.nil_append, text.2 rfl]
    rfl
  | cons c cs =>
    rw [shown, List.mem_cons, not_or] at plain
    have full : first.isEmpty = false := by
      rw [Bool.eq_false_iff]
      intro empty
      rw [String.isEmpty_iff.mp empty] at shown
      cases shown
    rw [full]
    simpa using Ne.symm plain.1

theorem exists_concat (p : Path) {last : String} (found : p.names.getLast? = some last)
    (slash : p.text.endsWith "/" = false) : ∃ before, p.pieces = before ++ [last] ∧ last ≠ "" := by
  obtain ⟨before, piece, pieces⟩ :=
    (List.eq_nil_or_concat' p.pieces).resolve_left p.pieces_ne_nil
  rw [names, pieces, List.filter_append] at found
  by_cases empty : piece = ""
  · -- a path that ends with a slash has an empty last piece, and so has the empty path
    subst empty
    cases before with
    | nil => cases found
    | cons first rest =>
      rw [endsWith_slash pieces (by simp)] at slash
      cases slash
  · have last : piece = last := by simpa [empty] using found
    exact ⟨before, last ▸ pieces, last ▸ empty⟩

theorem trimPieces_cons (first : String) (rest : List String) :
    ∃ kept idle, trimPieces (first :: rest) = first :: kept ∧ rest = kept ++ idle ∧
      (∀ piece ∈ idle, piece = "" ∨ piece = ".") ∧
      (kept ≠ [] → ∃ piece ∈ kept, piece.isEmpty = false) := by
  let idles : String → Bool := fun piece => piece.isEmpty || piece == "."
  refine ⟨rest.rdropWhile idles, rest.rtakeWhile idles, rfl,
    List.rdropWhile_append_rtakeWhile.symm, ?_, ?_⟩
  · intro piece mem
    simpa [idles] using List.mem_rtakeWhile_imp mem
  · intro some
    have last := List.rdropWhile_last_not idles rest some
    exact ⟨_, List.getLast_mem some, by simp_all [idles]⟩

theorem trimPieces_concat {last : String} (shown : last ≠ "") (plain : last ≠ ".")
    (before : List String) : trimPieces (before ++ [last]) = before ++ [last] := by
  cases before with
  | nil => rfl
  | cons first rest => simp [trimPieces, shown, plain]

theorem parent?_concat {p : Path} {first last : String} {rest : List String}
    (pieces : p.pieces = first :: rest ++ [last]) (shown : last ≠ "") (plain : last ≠ ".") :
    p.parent? =
      if trimPieces (first :: rest) = [""] then some ⟨"/"⟩
      else some ⟨"/".intercalate (trimPieces (first :: rest))⟩ := by
  have absolute : p.isAbsolute = first.isEmpty :=
    isAbsolute_of_pieces (show p.pieces = first :: (rest ++ [last]) from pieces) (.inr (by simp))
  obtain ⟨second, others, more⟩ := List.exists_cons_of_ne_nil (l := rest ++ [last]) (by simp)
  have kept : trimPieces (first :: second :: others) = first :: second :: others := by
    rw [← more]
    exact trimPieces_concat shown plain (first :: rest)
  have init : (first :: second :: others).dropLast = first :: rest := by
    rw [← more, ← List.cons_append, List.dropLast_concat]
  rw [parent?, pieces, List.cons_append, more, kept]
  simp only [init]
  split
  · next alone =>
    obtain ⟨kept, idle, trimmed, -⟩ := trimPieces_cons first rest
    have empty : first = "" := by
      rw [trimmed] at alone
      exact (List.cons.inj alone).1
    rw [if_pos alone, if_pos]
    rw [absolute, empty]
    rfl
  · next pieces longer => rw [if_neg longer]

theorem begins_of_pieces {p : Path} {first : String} {kept after : List String}
    {last : String} (pieces : p.pieces = first :: (kept ++ after) ++ [last])
    (more : first ≠ "" ∨ kept ≠ []) :
    let q : Path := ⟨"/".intercalate (first :: kept)⟩
    q.pieces = first :: kept ∧ q.isAbsolute = p.isAbsolute ∧ ∃ behind, p.text = q.text ++ behind := by
  intro q
  have split : p.pieces = (first :: kept) ++ (after ++ [last]) := by rw [pieces]; simp
  have begun : q.pieces = first :: kept :=
    pieces_intercalate
      (fun piece mem => slash_not_mem (by rw [split]; exact List.mem_append_left _ mem)) (by simp)
  refine ⟨begun, ?_, "/" ++ "/".intercalate (after ++ [last]), ?_⟩
  · rw [isAbsolute_of_pieces begun more, isAbsolute_of_pieces split (.inr (by simp))]
  · rw [text_append split (by simp) (by simp), String.append_assoc]

theorem exists_getLast?_names {p : Path} (shown : ∃ piece ∈ p.pieces, piece.isEmpty = false) :
    ∃ last, p.names.getLast? = some last := by
  apply Option.ne_none_iff_exists'.mp
  rw [ne_eq, List.getLast?_eq_none_iff, names, List.filter_eq_nil_iff]
  intro none
  obtain ⟨piece, mem, full⟩ := shown
  simpa [full] using none piece mem

end EventRelay.Path
