import EventRelay.EventLog
import EventRelay.Proofs.Text.Lines

namespace EventRelay

namespace Calendar

def isStampChar (c : Char) : Bool := c.isDigit || "-+ :".toList.contains c

def IsStamp (s : String) : Prop := ∀ c ∈ s.toList, isStampChar c = true

theorem isStamp_of_all {s : String} (h : s.toList.all isStampChar = true) : IsStamp s :=
  fun c hc => List.all_eq_true.mp h c hc

theorem IsStamp.append {s t : String} (hs : IsStamp s) (ht : IsStamp t) : IsStamp (s ++ t) := by
  intro c hc
  rw [String.toList_append, List.mem_append] at hc
  exact hc.elim (hs c) (ht c)

theorem isStamp_natural (n : Nat) : IsStamp (toString n) := by
  intro c hc
  rw [Nat.toString_eq_ofList_toDigits, String.toList_ofList] at hc
  have := Nat.isDigit_of_mem_toDigits (by decide) (by decide) hc
  simp [isStampChar, this]

theorem isStamp_pad (width n : Nat) : IsStamp (pad width n) := by
  refine IsStamp.append ?_ (isStamp_natural n)
  intro c hc
  rw [String.toList_ofList] at hc
  rw [List.eq_of_mem_replicate hc]
  decide

theorem isStamp_renderYear (year : Int) : IsStamp (renderYear year) := by
  unfold renderYear
  split
  · exact (isStamp_of_all (by decide)).append (isStamp_pad _ _)
  · split
    · next h =>
      refine (isStamp_of_all (by decide)).append ?_
      obtain ⟨n, rfl⟩ := Int.eq_ofNat_of_zero_le (show 0 ≤ year by omega)
      exact isStamp_natural n
    · exact isStamp_pad _ _

theorem isStamp_render (seconds : Int) : IsStamp (render seconds) := by
  have dash : IsStamp "-" := isStamp_of_all (by decide)
  have space : IsStamp " " := isStamp_of_all (by decide)
  have colon : IsStamp ":" := isStamp_of_all (by decide)
  have date (d : Date) : IsStamp (renderYear d.year ++ "-" ++ pad 2 d.month ++ "-" ++
      pad 2 d.day ++ " ") :=
    (((((isStamp_renderYear _).append dash).append (isStamp_pad _ _)).append dash).append
      (isStamp_pad _ _)).append space
  have time (n : Nat) : IsStamp (pad 2 (n / 3600) ++ ":" ++ pad 2 (n / 60 % 60) ++ ":" ++
      pad 2 (n % 60)) :=
    ((((isStamp_pad _ _).append colon).append (isStamp_pad _ _)).append colon).append
      (isStamp_pad _ _)
  exact (date _).append (time _)

theorem IsStamp.not_mem {s : String} (h : IsStamp s) {c : Char} (hc : isStampChar c = false) :
    c ∉ s.toList := by
  intro hm
  rw [h c hm] at hc
  cases hc

end Calendar

namespace LogEntry

theorem not_mem_flatten {c : Char} (hc : c = '\r' ∨ c = '\n') (raw : String) :
    c ∉ (flatten raw).toList := by
  rw [flatten, String.toList_ofList, List.mem_map]
  rintro ⟨d, -, h⟩
  split at h
  · rcases hc with rfl | rfl <;> cases h
  · next hd => exact hd (h ▸ hc)

theorem flatten_eq_self {raw : String} (trimmed : Text.trimList raw.toList = raw.toList)
    (feed : '\n' ∉ raw.toList) (ret : '\r' ∉ raw.toList) : flatten raw = raw := by
  have same : ∀ c ∈ raw.toList, (if c = '\r' ∨ c = '\n' then ' ' else c) = c := by
    intro c hc
    rw [if_neg]
    rintro (rfl | rfl)
    · exact ret hc
    · exact feed hc
  rw [flatten, trimmed, List.map_congr_left same, List.map_id', String.ofList_toList]

def body (e : LogEntry) : String :=
  "[" ++ Calendar.render e.receivedAt ++ "] " ++ flatten e.raw

theorem render_eq_body (e : LogEntry) : e.render = e.body ++ "\n" := rfl

theorem not_mem_body {c : Char} (hc : c = '\r' ∨ c = '\n') (e : LogEntry) :
    c ∉ e.body.toList := by
  have stamp : c ∉ (Calendar.render e.receivedAt).toList := by
    apply (Calendar.isStamp_render _).not_mem
    rcases hc with rfl | rfl <;> decide
  have text := not_mem_flatten hc e.raw
  have opening : c ∉ "[".toList := by rcases hc with rfl | rfl <;> decide
  have closing : c ∉ "] ".toList := by rcases hc with rfl | rfl <;> decide
  simp only [body, String.toList_append, List.mem_append, not_or]
  exact ⟨⟨⟨opening, stamp⟩, closing⟩, text⟩

theorem isLine_render (e : LogEntry) : Text.IsLine e.render :=
  ⟨e.body, e.render_eq_body, not_mem_body (.inr rfl) e, not_mem_body (.inl rfl) e⟩

end LogEntry

end EventRelay
