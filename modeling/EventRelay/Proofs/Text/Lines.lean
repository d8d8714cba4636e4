import EventRelay.Text.Split

namespace EventRelay.Text

/-- One line with its line feed, and no other end of a line in it. -/
def IsLine (s : String) : Prop :=
  ∃ body : String, s = body ++ "\n" ∧ '\n' ∉ body.toList ∧ '\r' ∉ body.toList

theorem IsLine.ends {s : String} (h : IsLine s) :
    s.toList.count '\n' = 1 ∧ s.toList.getLast? = some '\n' := by
  obtain ⟨body, rfl, feed, -⟩ := h
  have last : "\n".toList = ['\n'] := rfl
  rw [String.toList_append, last, List.count_append, List.count_eq_zero.mpr feed]
  exact ⟨rfl, List.getLast?_concat⟩

theorem dropReturn_of_not_mem {line : List Char} (h : '\r' ∉ line) : dropReturn line = line := by
  unfold dropReturn
  split
  · next rest hr =>
    have : '\r' ∈ line.reverse := by rw [hr]; exact List.mem_cons_self
    exact absurd (List.mem_reverse.mp this) h
  · rfl

theorem linesFrom_append {body : List Char} (h : '\n' ∉ body) (current rest : List Char) :
    linesFrom current (body ++ '\n' :: rest) =
      dropReturn (current.reverse ++ body) :: linesFrom [] rest := by
  induction body generalizing current with
  | nil => simp [linesFrom]
  | cons c body ih =>
    have hc : c ≠ '\n' := fun e => h (by rw [e]; exact List.mem_cons_self)
    have hb : '\n' ∉ body := fun e => h (List.mem_cons_of_mem c e)
    rw [List.cons_append, linesFrom, if_neg hc, ih hb, List.reverse_cons, List.append_assoc]
    rfl

theorem lines_join {ls : List String} (h : ∀ s ∈ ls, IsLine s) :
    (lines (String.join ls)).map (· ++ "\n") = ls := by
  induction ls with
  | nil => rfl
  | cons s ls ih =>
    obtain ⟨body, rfl, feed, ret⟩ := h s List.mem_cons_self
    have tail := ih fun t ht => h t (List.mem_cons_of_mem _ ht)
    have cut : (String.join ((body ++ "\n") :: ls)).toList =
        body.toList ++ '\n' :: (String.join ls).toList := by
      simp [String.toList_append]
    rw [lines, cut, linesFrom_append feed, List.reverse_nil, List.nil_append,
      dropReturn_of_not_mem ret, List.map_cons, List.map_cons, String.ofList_toList]
    exact congrArg _ tail

theorem IsLine.behind {s before : String} (h : IsLine s) (feed : '\n' ∉ before.toList)
    (ret : '\r' ∉ before.toList) : IsLine (before ++ s) := by
  obtain ⟨body, rfl, feed', ret'⟩ := h
  refine ⟨before ++ body, (String.append_assoc ..).symm, ?_, ?_⟩ <;>
    rw [String.toList_append, List.mem_append, not_or]
  · exact ⟨feed, feed'⟩
  · exact ⟨ret, ret'⟩

theorem IsLine.length_lines {s : String} (h : IsLine s) : (lines s).length = 1 := by
  have each : ∀ t ∈ [s], IsLine t := fun t mem => List.mem_singleton.mp mem ▸ h
  have cut := lines_join each
  rw [show String.join [s] = s by simp] at cut
  simpa using congrArg List.length cut

theorem linesFrom_feed (current cs rest : List Char) :
    linesFrom current (cs ++ '\n' :: rest) =
      linesFrom current (cs ++ ['\n']) ++ linesFrom [] rest := by
  induction cs generalizing current with
  | nil => simp [linesFrom]
  | cons c cs ih =>
    rw [List.cons_append, List.cons_append, linesFrom, linesFrom, ih, ih]
    split <;> rfl

/-- A text that ends with its last line. -/
def Finished (s : String) : Prop := s = "" ∨ ∃ before : String, s = before ++ "\n"

theorem lines_append {s : String} (finished : Finished s) (t : String) :
    lines (s ++ t) = lines s ++ lines t := by
  rcases finished with rfl | ⟨before, rfl⟩
  · rw [String.empty_append]
    rfl
  · have cut := linesFrom_feed [] before.toList t.toList
    simp only [lines, String.toList_append]
    change (linesFrom [] (before.toList ++ ['\n'] ++ t.toList)).map _ = _
    rw [List.append_assoc, List.singleton_append, cut, List.map_append]
    rfl

end EventRelay.Text
