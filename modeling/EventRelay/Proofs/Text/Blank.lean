import EventRelay.Text.Blank
import Mathlib.Data.List.DropRight

namespace EventRelay.Text

theorem trimEnd_concat {c : Char} (h : isBlank c = false) (cs : List Char) :
    trimEnd (cs ++ [c]) = cs ++ [c] := by
  simp [trimEnd, h]

theorem trimEnd_concat_blank {c : Char} (h : isBlank c = true) (cs : List Char) :
    trimEnd (cs ++ [c]) = trimEnd cs := by
  simp [trimEnd, h]

theorem trimList_cons {c : Char} (h : isBlank c = false) (cs : List Char) :
    trimList (c :: cs) = trimEnd (c :: cs) := by
  simp [trimList, trimStart, h]

theorem trimList_between {c d : Char} (hc : isBlank c = false) (hd : isBlank d = false)
    (cs : List Char) : trimList (c :: cs ++ [d]) = c :: cs ++ [d] := by
  rw [List.cons_append, trimList_cons hc, ← List.cons_append, trimEnd_concat hd]

theorem trimList_between_blank {c d b : Char} (hc : isBlank c = false) (hd : isBlank d = false)
    (hb : isBlank b = true) (cs : List Char) :
    trimList (c :: cs ++ [d] ++ [b]) = c :: cs ++ [d] := by
  rw [List.cons_append, List.cons_append, trimList_cons hc, ← List.cons_append,
    trimEnd_concat_blank hb, ← List.cons_append, trimEnd_concat hd]

theorem trimList_blanks {before behind : List Char} (hb : ∀ c ∈ before, isBlank c = true)
    (hr : ∀ c ∈ behind, isBlank c = true) {c d : Char} (hc : isBlank c = false)
    (hd : isBlank d = false) (cs : List Char) :
    trimList (before ++ (c :: cs ++ [d]) ++ behind) = c :: cs ++ [d] := by
  have start : trimStart (before ++ (c :: cs ++ [d]) ++ behind) = c :: cs ++ [d] ++ behind := by
    rw [trimStart, List.append_assoc, List.dropWhile_append_of_pos hb, List.cons_append,
      List.cons_append, List.dropWhile_cons_of_neg (by simp [hc])]
  rw [trimList, start, trimEnd, List.reverse_append,
    List.dropWhile_append_of_pos (fun c h => hr c (List.mem_reverse.mp h)), ← trimEnd,
    trimEnd_concat hd]

theorem trimEnd_of_forall {cs : List Char} (h : ∀ c ∈ cs, isBlank c = false) :
    trimEnd cs = cs := by
  rcases List.eq_nil_or_concat cs with rfl | ⟨cs, c, rfl⟩
  · rfl
  · rw [List.concat_eq_append] at h ⊢
    exact trimEnd_concat (h c (by simp)) cs

theorem trimList_concat_blank {cs : List Char} (h : ∀ c ∈ cs, isBlank c = false) {b : Char}
    (hb : isBlank b = true) : trimList (cs ++ [b]) = cs := by
  cases cs with
  | nil => simp [trimList, trimStart, trimEnd, hb]
  | cons c cs =>
    rw [List.cons_append, trimList_cons (h c List.mem_cons_self), ← List.cons_append,
      trimEnd_concat_blank hb, trimEnd_of_forall h]

theorem trimList_of_all {cs : List Char} (h : cs.all isBlank = true) : trimList cs = [] := by
  have nothing : (cs ++ []).dropWhile isBlank = [].dropWhile isBlank :=
    List.dropWhile_append_of_pos (List.all_eq_true.mp h)
  rw [List.append_nil, List.dropWhile_nil] at nothing
  rw [trimList, trimStart, nothing]
  rfl

theorem trimEnd_append_blanks {more : List Char} (h : more.all isBlank = true) (cs : List Char) :
    trimEnd (cs ++ more) = trimEnd cs := by
  have blank : ∀ c ∈ more.reverse, isBlank c = true :=
    fun c hc => List.all_eq_true.mp h c (List.mem_reverse.mp hc)
  rw [trimEnd, List.reverse_append, List.dropWhile_append_of_pos blank, trimEnd]

theorem exists_trimmed (cs : List Char) :
    ∃ more, more.all isBlank = true ∧ cs = trimEnd cs ++ more :=
  ⟨cs.rtakeWhile isBlank, List.all_eq_true.mpr fun _ => List.mem_rtakeWhile_imp,
    List.rdropWhile_append_rtakeWhile.symm⟩

theorem eq_nil_of_trimmed {cs more : List Char} (trimmed : trimEnd (cs ++ more) = cs ++ more)
    (h : more.all isBlank = true) : more = [] := by
  rw [trimEnd_append_blanks h] at trimmed
  have shorter := (List.rdropWhile_prefix isBlank (l := cs)).length_le
  rw [List.rdropWhile, ← trimEnd, trimmed, List.length_append] at shorter
  exact List.eq_nil_of_length_eq_zero (by omega)

theorem trimEnd_append_of_shown {more : List Char} (h : more.all isBlank = false)
    (cs : List Char) : trimEnd (cs ++ more) = cs ++ trimEnd more := by
  have shown : more.reverse.dropWhile isBlank ≠ [] := by
    rw [ne_eq, List.dropWhile_eq_nil_iff]
    simpa using h
  rw [trimEnd, List.reverse_append, List.dropWhile_append, if_neg (by simpa using shown),
    List.reverse_append, List.reverse_reverse, trimEnd]

theorem trimList_append_of_forall {more : List Char} (h : ∀ c ∈ more, isBlank c = false)
    (nonempty : more ≠ []) (cs : List Char) : trimList (cs ++ more) = trimStart cs ++ more := by
  obtain ⟨c, more, rfl⟩ := List.exists_cons_of_ne_nil nonempty
  have first := h c List.mem_cons_self
  have start : trimStart (cs ++ c :: more) = trimStart cs ++ c :: more := by
    rw [trimStart, trimStart, List.dropWhile_append, List.dropWhile_cons_of_neg (by simp [first])]
    split
    · next nothing => rw [List.isEmpty_iff.mp nothing, List.nil_append]
    · rfl
  have shown : (c :: more).all isBlank = false := by simp [first]
  rw [trimList, start, trimEnd_append_of_shown shown, trimEnd_of_forall h]

theorem trimEnd_cons (c : Char) (cs : List Char) :
    trimEnd (c :: cs) =
      if trimEnd cs = [] then (if isBlank c then [] else [c]) else c :: trimEnd cs := by
  simp only [trimEnd, List.reverse_cons, List.dropWhile_append, List.reverse_eq_nil_iff,
    List.isEmpty_iff]
  split
  · cases h : isBlank c <;> simp [h]
  · simp

theorem trimStart_trimEnd (cs : List Char) : trimStart (trimEnd cs) = trimEnd (trimStart cs) := by
  induction cs with
  | nil => rfl
  | cons c cs ih =>
    rw [trimEnd_cons]
    cases h : isBlank c with
    | true =>
      rw [show trimStart (c :: cs) = trimStart cs by simp [trimStart, h], ← ih]
      split
      · next nothing => rw [nothing]; rfl
      · simp [trimStart, h]
    | false =>
      rw [show trimStart (c :: cs) = c :: cs by simp [trimStart, h], trimEnd_cons, h]
      split <;> simp [trimStart, h]

theorem trimStart_trimStart (cs : List Char) : trimStart (trimStart cs) = trimStart cs :=
  List.dropWhile_idempotent isBlank cs

theorem trimEnd_trimEnd (cs : List Char) : trimEnd (trimEnd cs) = trimEnd cs := by
  rw [trimEnd, trimEnd, List.reverse_reverse, List.dropWhile_idempotent]

theorem trimList_trimEnd (cs : List Char) : trimList (trimEnd cs) = trimList cs := by
  rw [trimList, trimStart_trimEnd, trimEnd_trimEnd, trimList]

theorem trimList_trimList (cs : List Char) : trimList (trimList cs) = trimList cs := by
  rw [trimList.eq_def cs, trimList_trimEnd, trimList, trimStart_trimStart]

theorem trimList_map {f : Char → Char} (h : ∀ c, isBlank (f c) = isBlank c) (cs : List Char) :
    trimList (cs.map f) = (trimList cs).map f := by
  have same : isBlank ∘ f = isBlank := funext h
  simp only [trimList, trimEnd, trimStart, List.dropWhile_map, same, ← List.map_reverse]

end EventRelay.Text
