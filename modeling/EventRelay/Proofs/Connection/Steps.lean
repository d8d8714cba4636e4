import EventRelay.Proofs.Connection.Course
import EventRelay.Proofs.EventLog.Opening

namespace EventRelay

namespace Stage

def isOver : Stage → Bool
  | .ended _ => true
  | _ => false

def isRecorded : Stage → Bool
  | .delivering .. | .answering _ | .ended _ => true
  | _ => false

theorem remaining_eq_zero_iff {stage : Stage} : stage.remaining = 0 ↔ stage.isOver = true := by
  cases stage <;> simp [remaining, isOver]

end Stage

namespace Handler

variable {h : Handler} {c : Caller} {fs : FileSystem}

def serve (h : Handler) (c : Caller) (fs : FileSystem) (n : Nat) : Step :=
  h.run c { files := fs, stage := .waiting } n

theorem handle_eq_serve : h.handle c fs = h.serve c fs 5 := rfl

@[simp] theorem serve_zero : h.serve c fs 0 = { files := fs, stage := .waiting } := rfl

theorem run_add (s : Step) (m n : Nat) : h.run c s (m + n) = h.run c (h.run c s m) n := by
  induction m generalizing s with
  | zero => rw [Nat.zero_add, run]
  | succ m ih =>
    rw [Nat.succ_add, run, run]
    exact ih _

theorem serve_add (m n : Nat) : h.serve c fs (m + n) = h.run c (h.serve c fs m) n :=
  run_add _ m n

theorem serve_succ (n : Nat) :
    h.serve c fs (n + 1) =
      { h.step c (h.serve c fs n).files (h.serve c fs n).stage with
        effects := (h.serve c fs n).effects ++
          (h.step c (h.serve c fs n).files (h.serve c fs n).stage).effects } :=
  serve_add n 1

theorem remaining_step (fs : FileSystem) (stage : Stage) :
    (h.step c fs stage).stage.remaining ≤ stage.remaining - 1 := by
  cases stage with
  | waiting =>
    rw [step_waiting]
    unfold receive
    split
    · exact Nat.zero_le _
    · exact Nat.le_add_left 1 3
    · split
      · exact Nat.le_add_left 1 3
      · exact Nat.le_refl 4
  | logging event entry =>
    rw [step]
    split
    · exact Nat.le_succ 2
    · exact Nat.le_refl 3
  | writing event pending => exact Nat.le_refl 2
  | delivering event logged => exact Nat.le_refl 1
  | answering ack => exact Nat.le_refl 0
  | ended outcome => exact Nat.le_refl 0

theorem remaining_serve (n : Nat) : (h.serve c fs n).stage.remaining ≤ 5 - n := by
  induction n with
  | zero => exact Nat.le_refl 5
  | succ n ih =>
    rw [serve_succ]
    have := h.remaining_step (c := c) (h.serve c fs n).files (h.serve c fs n).stage
    simp only
    omega

theorem isOver_handle : (h.handle c fs).stage.isOver = true :=
  Stage.remaining_eq_zero_iff.mp (Nat.le_zero.mp (h.remaining_serve 5))

theorem run_of_isOver {s : Step} (ended : s.stage.isOver = true) (n : Nat) : h.run c s n = s := by
  obtain ⟨files, effects, stage⟩ := s
  cases stage with
  | ended outcome => exact run_ended files effects outcome n
  | waiting | logging | writing | delivering | answering => cases ended

theorem serve_of_isOver {n : Nat} (ended : (h.serve c fs n).stage.isOver = true) :
    h.serve c fs n = h.handle c fs := by
  calc
    h.serve c fs n = h.serve c fs (n + 5) := by rw [serve_add, run_of_isOver ended]
    _ = h.serve c fs (5 + n) := by rw [Nat.add_comm]
    _ = h.handle c fs := by
      rw [serve_add, ← handle_eq_serve, run_of_isOver isOver_handle]

theorem serve_course (n : Nat) :
    h.Course c (fun _ _ => True) (h.serve c fs n).stage (h.serve c fs n).effects := by
  induction n with
  | zero => exact .waiting
  | succ n ih =>
    rw [serve_succ]
    exact ih.step _ fun _ _ _ _ => trivial

theorem effects_run_prefix (s : Step) (n : Nat) : s.effects <+: (h.run c s n).effects := by
  induction n generalizing s with
  | zero => exact List.prefix_refl _
  | succ n ih =>
    rw [run]
    refine List.IsPrefix.trans ?_ (ih _)
    exact List.prefix_append _ _

theorem effects_serve_prefix (n : Nat) : (h.serve c fs n).effects <+: (h.handle c fs).effects := by
  have := effects_run_prefix (h := h) (c := c) (h.serve c fs n) 5
  rwa [← serve_add, Nat.add_comm, serve_add, ← handle_eq_serve, run_of_isOver isOver_handle]
    at this

theorem Course.isRecorded {taken : Event → Recipients → Prop} {stage : Stage}
    {shown : List Effect} (course : Course h c taken stage shown) (ne : shown ≠ []) :
    stage.isRecorded = true := by
  cases course with
  | waiting => exact absurd rfl ne
  | logging accepted => exact absurd rfl ne
  | writing accepted => exact absurd rfl ne
  | delivering accepted => rfl
  | refusing refused => rfl
  | answering accepted truthful => rfl
  | ended before complete => rfl
  | abandoned => rfl

theorem effects_serve (n : Nat) :
    (h.serve c fs n).effects = [] ∨ (∃ r, (h.serve c fs n).effects = [.logged r]) ∨
      (∃ r message acts, (h.serve c fs n).effects = [.logged r, .delivered message acts]) ∨
      h.serve c fs n = h.handle c fs := by
  have course : h.Course c _ (h.serve c fs n).stage (h.serve c fs n).effects := serve_course n
  have whole : (h.serve c fs n).stage.isOver = true → h.serve c fs n = h.handle c fs :=
    serve_of_isOver
  generalize (h.serve c fs n).stage = stage, (h.serve c fs n).effects = shown at course whole ⊢
  cases course with
  | waiting => exact .inl rfl
  | logging accepted => exact .inl rfl
  | writing accepted => exact .inl rfl
  | delivering accepted => exact .inr (.inl ⟨_, rfl⟩)
  | refusing refused => exact .inl rfl
  | answering accepted truthful => exact .inr (.inr (.inl ⟨_, _, _, rfl⟩))
  | ended before complete => exact .inr (.inr (.inr (whole rfl)))
  | abandoned => exact .inl rfl

theorem step_recorded {stage : Stage} (recorded : stage.isRecorded = true) :
    (h.step c fs stage).files = fs ∧ (h.step c fs stage).stage.isRecorded = true := by
  cases stage with
  | waiting | logging | writing => cases recorded
  | delivering | answering | ended => exact ⟨rfl, rfl⟩

theorem files_run_of_recorded {s : Step} (recorded : s.stage.isRecorded = true) (n : Nat) :
    (h.run c s n).files = s.files := by
  induction n generalizing s with
  | zero => rfl
  | succ n ih =>
    have ⟨files, next⟩ : (h.step c s.files s.stage).files = s.files ∧ _ := step_recorded recorded
    rw [run]
    refine Eq.trans (ih ?_) files
    exact next

theorem files_serve_of_shown {n : Nat} (ne : (h.serve c fs n).effects ≠ []) :
    (h.serve c fs n).files = (h.handle c fs).files := by
  have recorded := (serve_course n).isRecorded ne
  rw [← files_run_of_recorded (h := h) (c := c) recorded 5, ← serve_add, Nat.add_comm, serve_add,
    ← handle_eq_serve, run_of_isOver isOver_handle]

theorem files_serve_of_nothing (n : Nat) :
    (h.serve c fs n).effects = [] → (h.serve c fs n).stage.holdsLock = false →
      (h.serve c fs n).files = fs := by
  induction n with
  | zero => exact fun _ _ => rfl
  | succ n ih =>
    rw [serve_succ]
    intro nothing unlocked
    obtain ⟨before, now⟩ := List.append_eq_nil_iff.mp nothing
    cases stage : (h.serve c fs n).stage with
    | logging event entry =>
      have same := ih before (by rw [stage]; rfl)
      rw [stage, step] at now unlocked
      split at now
      · cases now
      · next start =>
        rw [start] at unlocked
        cases unlocked
    | writing event pending =>
      rw [stage] at now
      cases now
    | waiting | delivering | answering | ended =>
      have same := ih before (by rw [stage]; rfl)
      have notLogging : ∀ event entry, (h.serve c fs n).stage ≠ .logging event entry := by
        simp [stage]
      have quiet := h.step_quiet (c := c) notLogging (by rw [stage]; rfl) (h.serve c fs n).files
      rw [stage] at quiet
      exact quiet.1.trans same

section LogAt

variable {l : Location} {stage : Stage}

structure LogAt (h : Handler) (l : Location) (fs : FileSystem) (stage : Stage) : Prop where
  log : ∃ content, fs.find h.log.path = .ok (l, .file content)
  pending : ∀ event p, stage = .writing event p → p.location = l

theorem LogAt.quiet (logAt : h.LogAt l fs stage) (c : Caller)
    (notLogging : ∀ event entry, stage ≠ .logging event entry)
    (notWriting : stage.holdsLock = false) :
    h.LogAt l (h.step c fs stage).files (h.step c fs stage).stage ∧
      FileSystem.KeepsOthers l fs (h.step c fs stage).files := by
  obtain ⟨files, unlocked, -⟩ := step_quiet (h := h) (c := c) notLogging notWriting fs
  rw [files]
  refine ⟨⟨logAt.log, fun _ _ eq => ?_⟩, .refl l fs⟩
  rw [eq] at unlocked
  cases unlocked

theorem LogAt.step (logAt : h.LogAt l fs stage) (c : Caller) :
    h.LogAt l (h.step c fs stage).files (h.step c fs stage).stage ∧
      FileSystem.KeepsOthers l fs (h.step c fs stage).files := by
  cases stage with
  | logging event entry =>
    obtain ⟨content, found⟩ := logAt.log
    rw [Handler.step, EventLog.start_of_find_file found]
    cases h.log.roomIn content entry.render with
    | error f => exact ⟨⟨⟨content, found⟩, fun _ _ eq => by cases eq⟩, .refl l fs⟩
    | ok r =>
      refine ⟨⟨⟨r.kept, FileSystem.find_put found _⟩, fun _ _ eq => ?_⟩, .put found _⟩
      cases eq
      rfl
  | writing event p =>
    obtain ⟨content, found⟩ := logAt.log
    have located := logAt.pending event p rfl
    subst located
    have finish : p.finish fs = _ :=
      EventLog.Pending.finish_of_at? (FileSystem.at?_of_find found)
    rw [Handler.step, finish]
    exact ⟨⟨⟨_, FileSystem.find_put found _⟩, fun _ _ eq => by cases eq⟩, .put found _⟩
  | waiting | delivering | answering | ended =>
    exact logAt.quiet c (fun _ _ eq => by cases eq) rfl

theorem LogAt.serve (logAt : h.LogAt l fs .waiting) (c : Caller) (n : Nat) :
    h.LogAt l (h.serve c fs n).files (h.serve c fs n).stage ∧
      FileSystem.KeepsOthers l fs (h.serve c fs n).files := by
  induction n with
  | zero => exact ⟨logAt, .refl l fs⟩
  | succ n ih =>
    rw [serve_succ]
    obtain ⟨next, keeps⟩ := ih.1.step c
    exact ⟨next, ih.2.trans keeps⟩

/-- An append makes the same of a log wherever the other files are. -/
theorem step_alike {fs' : FileSystem} (alike : h.log.Alike l fs fs')
    (located : ∀ event p, stage = .writing event p → p.location = l)
    (appending : (∃ event entry, stage = .logging event entry) ∨ stage.holdsLock = true) :
    (h.step c fs stage).stage = (h.step c fs' stage).stage ∧
    (h.step c fs stage).effects = (h.step c fs' stage).effects ∧
    h.log.Alike l (h.step c fs stage).files (h.step c fs' stage).files := by
  have ⟨content, found, found'⟩ := alike
  cases stage with
  | logging event entry =>
    rw [Handler.step, EventLog.start_of_find_file found, Handler.step,
      EventLog.start_of_find_file found']
    cases h.log.roomIn content entry.render with
    | error f => exact ⟨rfl, rfl, alike⟩
    | ok r => exact ⟨rfl, rfl, alike.put r.kept⟩
  | writing event p =>
    have here := located event p rfl
    subst here
    have finish : p.finish fs = _ :=
      EventLog.Pending.finish_of_at? (FileSystem.at?_of_find found)
    have finish' : p.finish fs' = _ :=
      EventLog.Pending.finish_of_at? (FileSystem.at?_of_find found')
    rw [Handler.step, finish, Handler.step, finish']
    exact ⟨rfl, rfl, alike.put _⟩
  | waiting | delivering | answering | ended =>
    obtain ⟨_, _, eq⟩ | locked := appending
    · cases eq
    · cases locked

end LogAt

end Handler

end EventRelay
