import EventRelay.Proofs.Text.Lines
import Mathlib.Data.List.Basic
import Mathlib.Data.List.Induction

namespace EventRelay.Text

theorem dropReturn_eq_self_iff {line : List Char} :
    dropReturn line = line ↔ line.getLast? ≠ some '\r' := by
  rcases List.eq_nil_or_concat line with rfl | ⟨init, c, rfl⟩
  · simp [dropReturn]
  · rw [List.concat_eq_append, List.getLast?_concat, dropReturn, List.reverse_concat]
    split
    · next rest same =>
      obtain ⟨rfl, rfl⟩ := List.cons_eq_cons.mp same
      simp
    · next other =>
      simp only [true_iff, ne_eq, Option.some.injEq]
      rintro rfl
      exact other _ rfl

theorem dropReturn_sublist (line : List Char) : (dropReturn line).Sublist line := by
  unfold dropReturn
  split
  · next rest same =>
    have whole := congrArg List.reverse same
    rw [List.reverse_reverse, List.reverse_cons] at whole
    rw [whole]
    exact List.sublist_append_left _ _
  · exact List.Sublist.refl _

def ended (line : String) : String := String.ofList (dropReturn line.toList)

theorem ended_eq_self_iff {line : String} :
    ended line = line ↔ line.toList.getLast? ≠ some '\r' := by
  rw [← dropReturn_eq_self_iff, ended, ← String.toList_inj, String.toList_ofList]

theorem feed_not_mem_linesFrom {current : List Char} (h : '\n' ∉ current) (cs : List Char) :
    ∀ line ∈ linesFrom current cs, '\n' ∉ line := by
  induction cs generalizing current with
  | nil =>
    rw [linesFrom]
    split
    · simp
    · simpa using h
  | cons c cs ih =>
    rw [linesFrom]
    split
    · rw [List.forall_mem_cons]
      exact ⟨fun mem => h (List.mem_reverse.mp ((dropReturn_sublist _).mem mem)),
        ih List.not_mem_nil⟩
    · next other => exact ih (List.not_mem_cons_of_ne_of_not_mem (Ne.symm other) h)

theorem feed_not_mem_lines {s line : String} (h : line ∈ lines s) : '\n' ∉ line.toList := by
  obtain ⟨cs, mem, rfl⟩ := List.mem_map.mp h
  rw [String.toList_ofList]
  exact feed_not_mem_linesFrom List.not_mem_nil _ cs mem

theorem lines_feed {line : String} (h : '\n' ∉ line.toList) :
    lines (line ++ "\n") = [ended line] := by
  have cut := linesFrom_append h [] []
  rw [lines, String.toList_append]
  exact (congrArg (List.map String.ofList) cut).trans rfl

theorem finished_join (ls : List String) : Finished (String.join (ls.map (· ++ "\n"))) := by
  rcases List.eq_nil_or_concat ls with rfl | ⟨init, line, rfl⟩
  · exact .inl rfl
  · exact .inr ⟨String.join (init.map (· ++ "\n")) ++ line, by simp [String.append_assoc]⟩

theorem lines_join_ended {ls : List String} (h : ∀ line ∈ ls, '\n' ∉ line.toList) :
    lines (String.join (ls.map (· ++ "\n"))) = ls.map ended := by
  induction ls with
  | nil => rfl
  | cons line ls ih =>
    obtain ⟨feed, h⟩ := List.forall_mem_cons.mp h
    rw [List.map_cons, String.join_cons, lines_append (.inr ⟨line, rfl⟩), lines_feed feed, ih h]
    rfl

theorem exists_rest (s : String) : ∃ before rest : String, s = before ++ rest ∧ Finished before ∧
    '\n' ∉ rest.toList := by
  obtain ⟨cs, rfl⟩ : ∃ cs, s = String.ofList cs := ⟨s.toList, String.ofList_toList.symm⟩
  induction cs using List.reverseRecOn with
  | nil => exact ⟨"", "", rfl, .inl rfl, by simp⟩
  | append_singleton cs c ih =>
    obtain ⟨before, rest, same, finished, feed⟩ := ih
    rw [String.ofList_append]
    by_cases new : c = '\n'
    · subst new
      exact ⟨String.ofList cs ++ "\n", "", by simp, .inr ⟨_, rfl⟩, by simp⟩
    · refine ⟨before, rest ++ String.ofList [c], by rw [same, String.append_assoc], finished, ?_⟩
      rw [String.toList_append, String.toList_ofList, List.mem_append, List.mem_singleton, not_or]
      exact ⟨feed, Ne.symm new⟩

theorem getLast?_lines_of_not_finished {s body : String} (unfinished : ¬ Finished s)
    (feed : '\n' ∉ body.toList) (ret : body.toList.getLast? ≠ some '\r') (full : body ≠ "") :
    (lines (s ++ (body ++ "\n"))).getLast? ≠ some body := by
  obtain ⟨before, rest, rfl, finished, feed'⟩ := exists_rest s
  have started : rest ≠ "" := by
    rintro rfl
    exact unfinished (by rwa [String.append_empty])
  have joined : '\n' ∉ (rest ++ body).toList := by
    rw [String.toList_append, List.mem_append, not_or]
    exact ⟨feed', feed⟩
  have same : ended (rest ++ body) = rest ++ body := by
    rw [ended_eq_self_iff, String.toList_append,
      List.getLast?_append_of_ne_nil _ (by simpa using full)]
    exact ret
  have regroup : before ++ rest ++ (body ++ "\n") = before ++ (rest ++ body ++ "\n") := by
    simp only [String.append_assoc]
  rw [regroup, lines_append finished, lines_feed joined, same, List.getLast?_concat]
  intro eq
  have more := congrArg String.toList (Option.some.inj eq)
  rw [String.toList_append, List.append_left_eq_self, String.toList_eq_nil_iff] at more
  exact started more

end EventRelay.Text
