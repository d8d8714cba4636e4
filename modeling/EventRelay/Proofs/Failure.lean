import EventRelay.Failure

namespace EventRelay.Failure

theorem appendInnermost_concat (text : String) (between : Causes) (root : String) :
    appendInnermost text (between ++ [root]) = text ++ ": " ++ root := by
  induction between with
  | nil => rfl
  | cons cause between ih =>
    cases between with
    | nil => rfl
    | cons => exact ih

theorem prefix_appendInnermost (text : String) (causes : Causes) :
    text.toList <+: (appendInnermost text causes).toList := by
  obtain rfl | ⟨between, root, rfl⟩ := List.eq_nil_or_concat causes
  · exact List.prefix_refl _
  · rw [List.concat_eq_append, appendInnermost_concat, String.toList_append, String.toList_append,
      List.append_assoc]
    exact List.prefix_append _ _

theorem prefix_ackMessage (f : Failure) : f.message.toList <+: f.ackMessage.toList :=
  prefix_appendInnermost f.message f.causes

theorem eq_protocol_of_category {f : Failure} (h : f.category = .protocol) :
    ∃ reason causes, f = .protocol reason causes := by
  cases f with
  | protocol reason causes => exact ⟨reason, causes, rfl⟩
  | _ => simp [category] at h

theorem prefix_ackMessage_protocol {f : Failure} (h : f.category = .protocol) :
    "Invalid data".toList <+: f.ackMessage.toList := by
  obtain ⟨reason, causes, rfl⟩ := eq_protocol_of_category h
  refine List.IsPrefix.trans ?_ (prefix_ackMessage _)
  change _ <+: ("Invalid data: " ++ reason).toList
  rw [String.toList_append]
  exact ⟨": ".toList ++ reason.toList, by rfl⟩

end EventRelay.Failure
