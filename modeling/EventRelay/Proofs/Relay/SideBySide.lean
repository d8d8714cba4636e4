import EventRelay.Proofs.Connection.Exchange
import EventRelay.Proofs.Connection.ToCome
import EventRelay.Proofs.Relay.Lifecycle
import Mathlib.Data.List.Perm.Basic

/-!
Connections that come to their ends, side by side or one after another. Main statement: with a sink
that answers to the message alone, and a log that is never found at its limit, the way in which they
are served shows in nothing but times and order.
-/

namespace EventRelay

namespace Handler

variable {h : Handler} {c : Caller} {fs fs₀ : FileSystem} {stage : Stage} {shown : List Effect}

def Accepted (h : Handler) (c : Caller) : Stage → Prop
  | .logging _ entry => h.entryOf? c = some entry
  | .writing .. => ∃ entry, h.entryOf? c = some entry
  | _ => True

theorem Accepted.step (accepted : h.Accepted c stage) (fs : FileSystem) :
    h.Accepted c (h.step c fs stage).stage := by
  cases stage with
  | waiting =>
    rw [step_waiting]
    cases received : receive c (h.request c) with
    | logging event entry => exact entryOf?_of_accepted received
    | writing event p =>
      unfold receive at received
      split at received
      · cases received
      · cases received
      · split at received <;> cases received
    | waiting | delivering | answering | ended => trivial
  | logging event entry =>
    rw [Handler.step]
    split
    · trivial
    · exact ⟨entry, accepted⟩
  | writing | delivering | answering | ended => trivial

/-- A connection that, alone with the files `fs₀` from here on, ends up as if it had been alone
with them from the start. -/
structure Foreseen (h : Handler) (fs₀ : FileSystem) (c : Caller) (stage : Stage)
    (shown : List Effect) : Prop where
  whole : shown ++ h.toCome c fs₀ stage = (h.handle c fs₀).effects
  accepted : h.Accepted c stage

theorem foreseen_waiting (h : Handler) (fs₀ : FileSystem) (c : Caller) :
    h.Foreseen fs₀ c .waiting [] := ⟨rfl, trivial⟩

theorem Foreseen.step (foreseen : h.Foreseen fs₀ c stage shown) (uniform : h.sink.Uniform)
    (same : h.log.verdict fs = h.log.verdict fs₀) :
    h.Foreseen fs₀ c (h.step c fs stage).stage (shown ++ (h.step c fs stage).effects) where
  whole := by rw [List.append_assoc, step_toCome uniform same, foreseen.whole]
  accepted := foreseen.accepted.step fs

end Handler

namespace Relay

section Grouping

variable {α β : Type}

theorem flatMap_range_single {n j : Nat} (inside : j < n) (x : Nat → α) :
    ((List.range n).flatMap fun i => if j = i then [x i] else []) = [x j] := by
  induction n with
  | zero => cases inside
  | succ n ih =>
    rw [List.range_succ, List.flatMap_append, List.flatMap_singleton]
    rcases Nat.lt_or_eq_of_le (Nat.le_of_lt_succ inside) with before | rfl
    · rw [ih before, if_neg (by omega), List.append_nil]
    · rw [if_pos rfl, List.flatMap_eq_nil_iff.mpr, List.nil_append]
      intro i mem
      rw [if_neg]
      have := List.mem_range.mp mem
      omega

theorem perm_grouped {n : Nat} (l : List (Nat × α)) (inside : ∀ p ∈ l, p.1 < n) :
    l.Perm ((List.range n).flatMap fun i =>
      (l.filterMap fun (j, x) => if j = i then some x else none).map fun x => (i, x)) := by
  induction l with
  | nil => simp
  | cons p l ih =>
    obtain ⟨j, x⟩ := p
    have cut : (fun i => (((j, x) :: l).filterMap fun (j, x) => if j = i then some x else none).map
        fun x => (i, x)) = fun i => (if j = i then [(i, x)] else []) ++
          (l.filterMap fun (j, x) => if j = i then some x else none).map fun x => (i, x) := by
      funext i
      by_cases own : j = i <;> simp [own]
    rw [cut]
    refine List.Perm.trans ?_ (List.flatMap_append_perm _ _ _)
    rw [flatMap_range_single (inside (j, x) List.mem_cons_self) fun i => (i, x)]
    exact (ih fun p mem => inside p (List.mem_cons_of_mem _ mem)).cons _

theorem flatMap_range_eq (l : List α) {F : Nat → List β} {f : α → List β}
    (same : ∀ i a, l[i]? = some a → F i = f a) :
    (List.range l.length).flatMap F = l.flatMap f := by
  induction l generalizing F with
  | nil => rfl
  | cons a l ih =>
    rw [List.length_cons, List.range_succ_eq_map, List.flatMap_cons, List.flatMap_map,
      List.flatMap_cons, same 0 a rfl]
    congr 1
    exact ih fun i b found => same (i + 1) b found

end Grouping

section Log

variable {h : Handler} {fs₀ fs : FileSystem} {roomy : Prop} {connections : List (Caller × Stage)}
  {appended : List LogEntry} {i : Nat} {c : Caller} {stage' : Stage}

/--
How a log has fared since the files were `fs₀`: it takes no entries, or it takes them all. `roomy`
says that it has never been found at its limit.
-/
inductive Fares (h : Handler) (fs₀ : FileSystem) (roomy : Prop)
    (connections : List (Caller × Stage)) (fs : FileSystem) (appended : List LogEntry) : Prop
  | shut (f : Failure) (start : ∀ e, h.log.start e fs₀ = .error f) (same : fs = fs₀)
    (unlocked : ∀ x ∈ connections, x.2.holdsLock = false) (nothing : appended = [])
  | taking (l : Location) (old₀ old : Option Bytes)
    (opens₀ : fs₀.openForWriting h.log.path = .ok (l, old₀))
    (readable₀ : h.log.Readable (old₀.getD []))
    (opens : fs.openForWriting h.log.path = .ok (l, old))
    (readable : h.log.Readable (old.getD []))
    (kept : roomy → old.getD [] = old₀.getD [] ++ .ofString (EventLog.record appended))
    (pending : ∀ c event p, (c, Stage.writing event p) ∈ connections →
      p.location = l ∧ old ≠ none ∧ h.log.Readable p.added ∧
        (roomy → ∃ e, h.entryOf? c = some e ∧ p.added = .ofString e.render))

theorem fares_first (h : Handler) (fs₀ : FileSystem) (roomy : Prop) :
    Fares h fs₀ roomy [] fs₀ [] := by
  cases h.log.outlook fs₀ with
  | fails f start => exact .shut f start rfl (fun _ mem => by cases mem) rfl
  | opens l old opens readable =>
    refine .taking l old old opens readable opens readable (fun _ => ?_)
      fun _ _ _ mem => by cases mem
    rw [EventLog.record_nil, Bytes.ofString_empty, List.append_nil]

theorem Fares.verdict (fares : Fares h fs₀ roomy connections fs appended) :
    h.log.verdict fs = h.log.verdict fs₀ := by
  cases fares with
  | shut f start same _ _ => rw [same]
  | taking l old₀ old opens₀ readable₀ opens readable kept pending =>
    rw [EventLog.verdict_of_opens opens readable, EventLog.verdict_of_opens opens₀ readable₀]

theorem Fares.content (fares : Fares h fs₀ roomy connections fs appended) (room : roomy) :
    h.log.content fs = h.log.content fs₀ ++ .ofString (EventLog.record appended) := by
  cases fares with
  | shut f start same _ nothing =>
    rw [same, nothing, EventLog.record_nil, Bytes.ofString_empty, List.append_nil]
  | taking l old₀ old opens₀ readable₀ opens readable kept pending =>
    rw [EventLog.content_of_openForWriting opens, EventLog.content_of_openForWriting opens₀]
    exact kept room

theorem Fares.frame {connections' : List (Caller × Stage)}
    (fares : Fares h fs₀ roomy connections fs appended)
    (locked : ∀ x ∈ connections', x.2.holdsLock = true → x ∈ connections) :
    Fares h fs₀ roomy connections' fs appended := by
  cases fares with
  | shut f start same unlocked nothing =>
    refine .shut f start same (fun x mem => ?_) nothing
    rw [Bool.eq_false_iff]
    intro holds
    rw [unlocked x (locked x mem holds)] at holds
    cases holds
  | taking l old₀ old opens₀ readable₀ opens readable kept pending =>
    exact .taking l old₀ old opens₀ readable₀ opens readable kept fun c event p mem =>
      pending c event p (locked _ mem rfl)

theorem locked_of_set {x y : Caller × Stage} (unlocked : y.2.holdsLock = false)
    (mem : x ∈ connections.set i y) (holds : x.2.holdsLock = true) : x ∈ connections := by
  rcases List.mem_or_eq_of_mem_set mem with old | rfl
  · exact old
  · rw [unlocked] at holds
    cases holds

theorem Fares.start (fares : Fares h fs₀ roomy connections fs appended) {event : Event}
    {entry : LogEntry} (accepted : h.entryOf? c = some entry)
    (room : roomy → h.log.HasRoom (h.log.content fs)) :
    Fares h fs₀ roomy (connections.set i (c, (h.step c fs (.logging event entry)).stage))
      (h.step c fs (.logging event entry)).files appended := by
  cases fares with
  | shut f start same unlocked nothing =>
    rw [Handler.step, same, start]
    exact .shut f start rfl (fun x mem => by
      rcases List.mem_or_eq_of_mem_set mem with old | rfl
      · exact unlocked x old
      · rfl) nothing
  | taking l old₀ old opens₀ readable₀ opens readable kept pending =>
    obtain ⟨before, added, start, roomIn, readable', readable''⟩ :=
      EventLog.start_of_opens opens readable entry
    rw [EventLog.content_of_openForWriting opens] at room
    -- With room left the file is opened as it is.
    have whole (r : roomy) : before = old.getD [] ∧ added = .ofString entry.render := by
      rw [EventLog.roomIn_of_hasRoom readable (room r)] at roomIn
      cases roomIn
      exact ⟨rfl, rfl⟩
    have opened := FileSystem.openForWriting_of_find
      (FileSystem.find_put_of_openForWriting opens before)
    rw [Handler.step, start]
    refine .taking l old₀ (some before) opens₀ readable₀ opened readable' (fun r => ?_) ?_
    · rw [Option.getD_some, (whole r).1, kept r]
    · intro c' event' p mem
      rcases List.mem_or_eq_of_mem_set mem with other | own
      · obtain ⟨located, -, readable, line⟩ := pending c' event' p other
        exact ⟨located, by simp, readable, line⟩
      · cases own
        exact ⟨rfl, by simp, readable'', fun r => ⟨entry, accepted, (whole r).2⟩⟩

theorem Fares.finish (fares : Fares h fs₀ roomy connections fs appended) {event : Event}
    {p : EventLog.Pending} {entry : LogEntry}
    (before : connections[i]? = some (c, .writing event p))
    (accepted : h.entryOf? c = some entry) (unlocked : stage'.holdsLock = false) :
    Fares h fs₀ roomy (connections.set i (c, stage')) (p.finish fs) (appended ++ [entry]) := by
  have mem := List.mem_of_getElem? before
  cases fares with
  | shut f start same free nothing =>
    have := free _ mem
    cases this
  | taking l old₀ old opens₀ readable₀ opens readable kept pending =>
    obtain ⟨located, there, readable', line⟩ := pending c event p mem
    subst located
    obtain ⟨content, rfl⟩ := Option.ne_none_iff_exists'.mp there
    have finish : p.finish fs = _ := EventLog.Pending.finish_of_at?
      (FileSystem.at?_of_find (FileSystem.find_of_openForWriting opens))
    have opened := FileSystem.openForWriting_of_find
      (FileSystem.find_put_of_openForWriting opens (content ++ p.added))
    rw [finish]
    refine .taking p.location old₀ (some (content ++ p.added)) opens₀ readable₀ opened
      (readable.append readable') (fun r => ?_) ?_
    · obtain ⟨e, accepted', added⟩ := line r
      rw [accepted] at accepted'
      cases accepted'
      have := kept r
      rw [Option.getD_some] at this ⊢
      rw [this, added, EventLog.record_append, EventLog.record_singleton, Bytes.ofString_append,
        List.append_assoc]
    · intro c' event' p' mem'
      obtain ⟨located, -, readable, line⟩ := pending c' event' p' (locked_of_set unlocked mem' rfl)
      exact ⟨located, by simp, readable, line⟩

end Log

namespace Server

variable {first s s' : Server} {happening : Happening} {roomy : Prop}

/-- No append has found the log at its limit. -/
def NeverFull (first : Server) (happenings : List Happening) : Prop :=
  ∀ earlier i later c event entry, happenings = earlier ++ .progress i :: later →
    (first.run earlier).connections[i]? = some (c, .logging event entry) →
    (first.run earlier).isLogLocked = false →
    first.service.handler.log.HasRoom
      (first.service.handler.log.content (first.run earlier).machine.files)

structure Steady (first : Server) (roomy : Prop) (s : Server) : Prop where
  service : s.service = first.service
  numbered : s.Numbered
  foreseen : ∀ i c stage, s.connections[i]? = some (c, stage) →
    first.service.handler.Foreseen first.machine.files c stage (s.shown i)
  log : Fares first.service.handler first.machine.files roomy s.connections s.machine.files
    s.appended

theorem steady_first (service : Service) (machine : Machine) (roomy : Prop) :
    Steady { service, machine } roomy { service, machine } :=
  ⟨rfl, fun _ mem => (by cases mem), fun _ _ _ found => (by cases found), fares_first _ _ roomy⟩

theorem Steady.foreseen_next (steady : Steady first roomy s)
    (uniform : first.service.handler.sink.Uniform) (change : s.Change happening s') :
    ∀ i c stage, s'.connections[i]? = some (c, stage) →
      first.service.handler.Foreseen first.machine.files c stage (s'.shown i) := by
  intro i c stage found
  cases change with
  | none connections effects _ | released _ _ connections effects _ =>
    rw [connections] at found
    rw [shown_of_effects effects]
    exact steady.foreseen i c stage found
  | accepted c' connections effects _ =>
    rw [connections, List.getElem?_append] at found
    rw [shown_of_effects effects]
    split at found
    · exact steady.foreseen i c stage found
    · next outside =>
      rw [List.getElem?_singleton] at found
      split at found <;> cases found
      rw [steady.numbered.shown_nil (Nat.le_of_not_lt outside)]
      exact Handler.foreseen_waiting _ _ _
  | advanced j c' stage' _ before _ connections effects _ =>
    obtain ⟨own, others⟩ := shown_of_new effects
    rw [connections, List.getElem?_set] at found
    split at found
    · next same =>
      subst same
      rw [if_pos (List.getElem?_eq_some_iff.mp before).1] at found
      cases found
      rw [own, steady.service]
      exact (steady.foreseen j _ _ before).step uniform steady.log.verdict
    · next other =>
      rw [others i (Ne.symm other)]
      exact steady.foreseen i c stage found

theorem Steady.log_quiet (steady : Steady first roomy s) {i : Nat} {c : Caller} {stage : Stage}
    (step : Advanced first.service.handler s s' i c stage)
    (notLogging : ∀ event entry, stage ≠ .logging event entry)
    (notWriting : stage.holdsLock = false) :
    Fares first.service.handler first.machine.files roomy s'.connections s'.machine.files
      s'.appended := by
  obtain ⟨same, unlocked, quiet⟩ := Handler.step_quiet (h := first.service.handler) (c := c)
    notLogging notWriting s.machine.files
  rw [step.connections, step.files, same, step.appended_of_quiet quiet]
  exact steady.log.frame fun x mem holds => locked_of_set unlocked mem holds

theorem Steady.log_advanced (steady : Steady first roomy s) {i : Nat} {c : Caller} {stage : Stage}
    (step : Advanced first.service.handler s s' i c stage)
    (room : roomy → ∀ event entry, stage = .logging event entry →
      first.service.handler.log.HasRoom
        (first.service.handler.log.content s.machine.files)) :
    Fares first.service.handler first.machine.files roomy s'.connections s'.machine.files
      s'.appended := by
  have accepted := (steady.foreseen i c stage step.before).accepted
  cases stage with
  | logging event entry =>
    have quiet : .logged (.ok ()) ∉
        (first.service.handler.step c s.machine.files (.logging event entry)).effects := by
      rw [Handler.step]
      split <;> simp
    rw [step.connections, step.files, step.appended_of_quiet quiet]
    exact steady.log.start accepted fun r => room r event entry rfl
  | writing event p =>
    obtain ⟨entry, accepted⟩ := accepted
    have known : s.entryOf? i = some entry := by
      rw [entryOf?, entryAt?, steady.service, step.before]
      exact accepted
    have appended : s'.appended = s.appended ++ [entry] := by
      rw [step.appended]
      change _ ++ [i].filterMap s.entryOf? = _
      rw [List.filterMap_cons, known]
      rfl
    rw [step.connections, step.files, appended]
    exact steady.log.finish step.before accepted rfl
  | waiting | delivering | answering | ended =>
    exact steady.log_quiet step (fun _ _ eq => by cases eq) rfl

theorem Steady.next (steady : Steady first roomy s) (uniform : first.service.handler.sink.Uniform)
    (running : (s.next happening).phase ≠ .stopped)
    (room : roomy → ∀ i c event entry, happening = .progress i →
      s.connections[i]? = some (c, .logging event entry) → s.isLogLocked = false →
      first.service.handler.log.HasRoom
        (first.service.handler.log.content s.machine.files)) :
    Steady first roomy (s.next happening) := by
  have move := s.next_move happening
  refine ⟨move.service.trans steady.service, steady.numbered.next move.change,
    steady.foreseen_next uniform move.change, ?_⟩
  cases move.change with
  | none connections effects files =>
    rw [connections, files, appended_of_same move.service connections effects]
    exact steady.log
  | accepted c connections effects files =>
    rw [connections, files, steady.numbered.appended_accepted move.service connections effects]
    refine steady.log.frame fun x mem holds => ?_
    rcases List.mem_append.mp mem with old | new
    · exact old
    · rw [List.mem_singleton.mp new] at holds
      cases holds
  | advanced i c stage happened before free connections effects files =>
    rw [steady.service] at connections effects files
    refine steady.log_advanced ⟨move.service, fun _ => ?_, before, connections, effects, files⟩ ?_
    · exact fun stopped => running (move.stays stopped)
    · intro r event entry eq
      subst eq
      exact room r i c event entry happened before (free event entry rfl)
  | released _ stopped => exact absurd stopped running

theorem steady_run (service : Service) (uniform : service.handler.sink.Uniform) (machine : Machine)
    {happenings : List Happening} (quiet : .shutdown ∉ happenings) :
    let first : Server := { service, machine }
    Steady first (NeverFull first happenings) (first.run happenings) := by
  intro first
  have beginnings (earlier : List Happening) : earlier <+: happenings →
      Steady first (NeverFull first happenings) (first.run earlier) := by
    induction earlier using List.reverseRecOn with
    | nil => exact fun _ => steady_first service machine _
    | append_singleton earlier happening ih =>
      rintro ⟨later, rfl⟩
      rw [run_concat]
      refine (ih ⟨happening :: later, by simp⟩).next uniform ?_ ?_
      · intro stopped
        have running : (first.run (earlier ++ [happening])).phase.isLeft = false :=
          isLeft_of_quiet fun asked => quiet (List.mem_append_left later asked)
        rw [run_concat, stopped] at running
        cases running
      · rintro room i c event entry rfl found free
        exact room earlier i later c event entry (by simp) found free
  exact beginnings happenings (List.prefix_refl _)

theorem Steady.shown_of_isOver (steady : Steady first roomy s)
    (ended : ∀ slot ∈ s.slots, slot.isOver = true) {i : Nat} {c : Caller}
    (found : s.callers[i]? = some c) :
    s.shown i = (first.service.handler.handle c first.machine.files).effects := by
  rw [callers, List.getElem?_map] at found
  obtain ⟨slot, at', rfl⟩ := Option.map_eq_some_iff.mp found
  have foreseen := steady.foreseen i slot.caller slot.stage (by simp [connections, at'])
  have over' := ended slot (List.mem_of_getElem? at')
  unfold Slot.isOver at over'
  split at over'
  · next outcome eq =>
    rw [← foreseen.whole, eq, Handler.toCome_ended, List.append_nil]
  · cases over'

theorem Steady.effects_perm (steady : Steady first roomy s)
    (ended : ∀ slot ∈ s.slots, slot.isOver = true) {β : Type} {g : Nat × Effect → Option β}
    {k : Caller → Effect → Option β}
    (known : ∀ i c, s.callers[i]? = some c → ∀ e, g (i, e) = k c e) :
    (s.effects.filterMap g).Perm (s.callers.flatMap fun c =>
      (first.service.handler.handle c first.machine.files).effects.filterMap (k c)) := by
  have length : s.connections.length = s.callers.length := by simp [connections, callers]
  refine ((perm_grouped s.effects steady.numbered).filterMap g).trans ?_
  rw [List.filterMap_flatMap, length, flatMap_range_eq]
  intro i c found
  rw [← steady.shown_of_isOver ended found, List.filterMap_map]
  exact List.filterMap_congr fun e _ => known i c found e

theorem Steady.messages_perm (steady : Steady first roomy s)
    (ended : ∀ slot ∈ s.slots, slot.isOver = true) :
    (Effect.messages (s.effects.map Prod.snd)).Perm (s.callers.flatMap fun c =>
      Effect.messages (first.service.handler.handle c first.machine.files).effects) := by
  unfold Effect.messages
  rw [List.filterMap_map]
  exact steady.effects_perm ended fun _ _ _ _ => rfl

theorem Steady.appended_perm (steady : Steady first roomy s)
    (ended : ∀ slot ∈ s.slots, slot.isOver = true) :
    s.appended.Perm (s.callers.flatMap (first.service.handler.recorded first.machine.files)) := by
  unfold appended appenders Handler.recorded
  rw [List.filterMap_filterMap]
  apply steady.effects_perm ended
  intro i c found e
  rw [callers, List.getElem?_map] at found
  obtain ⟨slot, at', rfl⟩ := Option.map_eq_some_iff.mp found
  have entry : s.entryOf? i = first.service.handler.entryOf? slot.caller := by
    simp [entryOf?, entryAt?, connections, at', steady.service]
  cases e with
  | logged result =>
    rcases result with f | ⟨⟩
    · rfl
    · exact entry
  | delivered | replied | hungUp => rfl

section Alone

variable {service : Service} {machine : Machine} {c : Caller}

def visit (c : Caller) (steps : Nat) : List Happening :=
  .connection c :: List.replicate steps (.progress 0)

theorem visit_succ (c : Caller) (steps : Nat) :
    visit c (steps + 1) = visit c steps ++ [.progress 0] := by
  rw [visit, visit, List.replicate_succ', List.cons_append]

theorem quiet_visit (c : Caller) (steps : Nat) : .shutdown ∉ visit c steps := by
  intro mem
  rcases List.mem_cons.mp mem with eq | mem
  · cases eq
  · cases List.eq_of_mem_replicate mem

theorem free_visit (steps : Nat) :
    (run { service, machine } (visit c steps)).shutdownPending = false :=
  free_run rfl (quiet_visit c steps)

theorem callers_visit (steps : Nat) : (run { service, machine } (visit c steps)).callers = [c] := by
  induction steps with
  | zero =>
    rw [visit, List.replicate_zero, run_cons, run_nil, next_connection rfl rfl, callers_accept]
    rfl
  | succ steps ih =>
    rw [visit_succ, run_concat, ← ih]
    cases next_turn (run { service, machine } (visit c steps)) (.progress 0) with
    | takes _ happened | serves _ happened => cases happened
    | stays _ _ _ same | pauses _ _ _ _ _ same | resumes _ _ _ _ same | returns _ _ _ _ _ same
    | leaves _ _ _ _ _ same | closes _ _ _ _ same | releases _ _ _ _ _ _ same => exact same

theorem advance_alone {stage : Stage} (alone : s.slots = [{ caller := c, stage }]) :
    (s.advance 0).slots =
      [{ caller := c, stage := (s.service.handler.step c s.machine.files stage).stage }] ∧
      (s.advance 0).machine.files = (s.service.handler.step c s.machine.files stage).files := by
  have found : s.slots[0]? = some { caller := c, stage } := by rw [alone]; rfl
  cases stage with
  | ended outcome =>
    rw [advance_of_rest fun slot at' => by
      rw [found] at at'
      cases at'
      rfl]
    exact ⟨alone, rfl⟩
  | waiting | logging | writing | delivering | answering =>
    rw [advance_of_ready found
      (by simp [isReady, isLogLocked, alone, Slot.isBusy, Stage.holdsLock])]
    exact ⟨by simp [alone], rfl⟩

theorem run_visit (machine : Machine) (c : Caller) (concurrent : service.concurrent = true)
    (steps : Nat) :
    let s := run { service, machine } (visit c steps)
    s.phase = .selecting ∧
      s.slots =
        [{ caller := c, stage := (service.handler.serve c machine.files steps).stage }] ∧
      s.machine.files = (service.handler.serve c machine.files steps).files := by
  induction steps with
  | zero =>
    simp only [visit, List.replicate_zero, run_cons, run_nil]
    rw [next_connection rfl rfl, accept]
    simp only [sign, concurrent, if_true]
    exact ⟨trivial, rfl, rfl⟩
  | succ steps ih =>
    obtain ⟨selecting, alone, files⟩ := ih
    have service' := run_service { service, machine } (visit c steps)
    have idle : ∀ i, ((run { service, machine } (visit c steps)).advance 0).phase ≠ .serving i := by
      intro i eq
      rw [phase_advance, selecting] at eq
      cases eq
    obtain ⟨alone', files'⟩ := advance_alone alone
    rw [files, service'] at alone' files'
    simp only
    rw [visit_succ, run_concat]
    refine ⟨progress_of_selecting selecting 0, ?_⟩
    rw [next, free_visit, if_neg (by simp), settle_of_idle idle, Handler.serve_succ]
    exact ⟨alone', files'⟩

theorem ended_visit (concurrent : service.concurrent = true) :
    ∀ slot ∈ (run { service, machine } (visit c 5)).slots, slot.isOver = true := by
  obtain ⟨-, alone, -⟩ := run_visit machine c concurrent 5
  intro slot mem
  rw [alone, List.mem_singleton] at mem
  rw [mem]
  exact Handler.isOver_handle

theorem ended_visit_serial (serial : service.concurrent = false) :
    ∀ slot ∈ (run { service, machine } (visit c 5)).slots, slot.isOver = true := by
  have serving : (run { service, machine } [.connection c]).phase = .serving 0 := by
    rw [run_cons, run_nil, next_connection rfl rfl, accept]
    simp only [sign, serial]
    rfl
  have returned : (run { service, machine } (visit c 5)).phase = .selecting :=
    (serving_run serial machine _ serving).returns (by rw [run_service]) (free_visit 0)
  exact ((inTurn_run serial machine (visit c 5) (by rw [returned]; simp)).resting_of_selecting
    returned).ended

theorem neverFull_visit (concurrent : service.concurrent = true) (steps : Nat)
    (room : service.handler.log.HasRoom (service.handler.log.content machine.files)) :
    NeverFull { service, machine } (visit c steps) := by
  intro earlier i later c' event entry cut found _
  obtain ⟨n, rfl⟩ : ∃ n, earlier = visit c n := by
    cases earlier with
    | nil => cases cut
    | cons happening earlier =>
      obtain ⟨rfl, rest⟩ := List.cons_eq_cons.mp cut
      exact ⟨earlier.length, congrArg _ (List.append_eq_replicate_iff.mp rest.symm).2.1⟩
  obtain ⟨-, alone, files⟩ := run_visit machine c concurrent n
  have stage : (service.handler.serve c machine.files n).stage = .logging event entry := by
    rw [connections, alone, List.map_singleton, List.getElem?_singleton] at found
    split at found
    · exact congrArg Prod.snd (Option.some.inj found)
    · cases found
  have nothing : (service.handler.serve c machine.files n).effects = [] := by
    have course : service.handler.Course c _ (service.handler.serve c machine.files n).stage
      (service.handler.serve c machine.files n).effects := Handler.serve_course n
    rw [stage] at course
    generalize (service.handler.serve c machine.files n).effects = shown at course ⊢
    cases course
    rfl
  have same := Handler.files_serve_of_nothing n nothing (by rw [stage]; rfl)
  rw [files, same]
  exact room

end Alone

def finished : Event := { source := "backup", title := "done" }

def sender : Caller :=
  { name := "client"
    incoming := { reads := [.bytes (.ofString (finished.encode 0))] ++ [] }
    receivedAt := 0
    answeredAt := 0 }

def small : Service :=
  { listener := ⟨"localhost:1", 7⟩
    pidFile := ⟨⟨"pid"⟩, 7⟩
    handler :=
      { log := ⟨⟨"log"⟩, .lines, 0, 2⟩
        sink := { name := "none", deliver := fun _ _ => { result := .ok none } }
        readTimeoutMs := 1
        deliveryTimeoutMs := 1
        bufferSize := (Bytes.ofString (finished.stamped 0).toValue.text).length }
    concurrent := false }

def holding (text : String) : Machine :=
  { files := FileSystem.empty.put (.child .root "log") (.file (.ofString text)) }

theorem uniform_small : small.handler.sink.Uniform := fun _ _ _ => rfl

section Holding

variable {text : String}

theorem opens_holding : (holding text).files.openForWriting small.handler.log.path =
    .ok (.child .root "log", some (.ofString text)) :=
  FileSystem.openForWriting_of_find
    (FileSystem.find_put_of_openForWriting
      ((FileSystem.isName_of_plain "log" (by decide)).openForWriting rfl) _)

theorem content_holding :
    small.handler.log.content (holding text).files = .ofString text :=
  EventLog.content_of_openForWriting opens_holding

theorem hasRoom_holding (one : (Text.lines text).length = 1) :
    small.handler.log.HasRoom (small.handler.log.content (holding text).files) := by
  rw [content_holding]
  intro text' same
  rw [Bytes.toString?_ofString] at same
  cases same
  exact one ▸ Nat.lt_succ_self 1

theorem recorded_sender :
    small.handler.recorded (holding text).files sender = [finished.entry 0 0] := by
  have named : Text.isBlankText finished.source = false := by decide +kernel
  have time : (finished.stamped 0).TimeFits := by
    unfold Event.TimeFits
    decide
  have arrives : Arrives [.bytes (.ofString (finished.encode 0))] 1
      (.ofString (finished.encode 0)) := ⟨by simp [Read.data], by decide, by decide⟩
  have received : Handler.receive sender (small.handler.request sender) =
      .logging (finished.stamped 0) (finished.entry 0 0) := by
    rw [Handler.request_encode rfl arrives (Nat.le_refl _)]
    exact Handler.receive_text named time
  exact Handler.recorded_of_accepted uniform_small received
    (EventLog.verdict_of_opens opens_holding (small.handler.log.readable_ofString text))

end Holding

theorem perm_flatMap_untimed {α : Type} {left right : List Caller} {f : Caller → List α}
    (timeless : ∀ c, f c = f c.untimed)
    (same : (left.map Caller.untimed).Perm (right.map Caller.untimed)) :
    (left.flatMap f).Perm (right.flatMap f) := by
  have factor (l : List Caller) : l.flatMap f = (l.map Caller.untimed).flatMap f := by
    rw [List.flatMap_map]
    exact List.flatMap_congr fun c _ => timeless c
  rw [factor left, factor right]
  exact same.flatMap_right f

/--
Some callers are served to their ends, side by side in any order of their steps, and again one after
another, each time with failed accepts in between. The sink answers to the message alone, and no
append of the first run finds the log at its limit. Then each caller sees the same in both but for
the time in its acknowledgement, the sink gets the same messages in some order, the same entries are
appended but for their times, and the log of the first run has all it had, and those entries behind
it, as lines of their own if it ended with a line feed.
-/
theorem run_side_by_side (service : Service) (uniform : service.handler.sink.Uniform)
    (machine : Machine) {beside inTurn : List Happening} (quiet : .shutdown ∉ beside)
    (quiet' : .shutdown ∉ inTurn) :
    let first : Server := { service := { service with concurrent := true }, machine }
    let a := first.run beside
    let b := run { service := { service with concurrent := false }, machine } inTurn
    let log := service.handler.log
    (∀ slot ∈ a.slots, slot.isOver = true) → (∀ slot ∈ b.slots, slot.isOver = true) →
    (a.callers.map Caller.untimed).Perm (b.callers.map Caller.untimed) →
    NeverFull first beside →
    (∀ i j c c', a.callers[i]? = some c → b.callers[j]? = some c' → c.untimed = c'.untimed →
      List.Forall₂ Effect.SameButTime (a.shown i) (b.shown j)) ∧
    (Effect.messages (a.effects.map Prod.snd)).Perm (Effect.messages (b.effects.map Prod.snd)) ∧
    (a.appended.map LogEntry.untimed).Perm (b.appended.map LogEntry.untimed) ∧
    log.content a.machine.files =
      log.content machine.files ++ .ofString (EventLog.record a.appended) ∧
    ∀ text, log.content machine.files = .ofString text → Text.Finished text →
      ∃ text', log.content a.machine.files = .ofString text' ∧
        Text.lines text' = Text.lines text ++ a.appended.map LogEntry.body := by
  intro first a b log ended ended' same room
  have steady : Steady first (NeverFull first beside) a :=
    steady_run { service with concurrent := true } uniform machine quiet
  have steady' := steady_run { service with concurrent := false } uniform machine quiet'
  have content : log.content a.machine.files = _ := steady.log.content room
  refine ⟨?_, ?_, ?_, content, ?_⟩
  · intro i j c c' found found' alike
    rw [steady.shown_of_isOver ended found, steady'.shown_of_isOver ended' found']
    exact Handler.handle_untimed alike uniform machine.files
  · refine (steady.messages_perm ended).trans
      ((perm_flatMap_untimed (fun c => ?_) same).trans (steady'.messages_perm ended').symm)
    have alike : c.untimed = c.untimed.untimed := rfl
    exact Effect.messages_sameButTime (Handler.handle_untimed alike uniform machine.files)
  · have entries := (steady.appended_perm ended).map LogEntry.untimed
    have entries' := (steady'.appended_perm ended').map LogEntry.untimed
    rw [List.map_flatMap] at entries entries'
    refine entries.trans ((perm_flatMap_untimed (fun c => ?_) same).trans entries'.symm)
    exact Handler.recorded_untimed uniform rfl
  · intro text initial finished
    refine ⟨text ++ EventLog.record a.appended, ?_, ?_⟩
    · rw [content, Bytes.ofString_append, ← initial]
    · rw [Text.lines_append finished, EventLog.lines_record_eq]

theorem run_side_by_side_of_visit :
    let a := run { service := { small with concurrent := true }, machine := holding "earlier\n" }
      (visit sender 5)
    ∃ text', small.handler.log.content a.machine.files = .ofString text' ∧
      Text.lines text' = ["earlier"] ++ a.appended.map LogEntry.body :=
  (run_side_by_side small uniform_small (holding "earlier\n")
    (quiet_visit sender 5) (quiet_visit sender 5) (ended_visit rfl) (ended_visit_serial rfl)
    (by rw [callers_visit, callers_visit]) (neverFull_visit rfl 5 (hasRoom_holding (by decide)))
    ).2.2.2.2 "earlier\n" content_holding (.inr ⟨"earlier", rfl⟩)

section Unfinished

variable {service : Service} {machine : Machine} {c : Caller} {entry : LogEntry} {text : String}

theorem continued_of_unfinished (uniform : service.handler.sink.Uniform)
    (content : service.handler.log.content machine.files = .ofString text)
    (room : service.handler.log.HasRoom (service.handler.log.content machine.files))
    (feed : '\n' ∉ text.toList) (ret : '\r' ∉ text.toList) (started : Text.lines text ≠ [])
    (recorded : service.handler.recorded machine.files c = [entry]) {text' : String}
    {entries : List LogEntry}
    (final : service.handler.log.content
        (run { service := { service with concurrent := true }, machine }
          (visit c 5)).machine.files =
      .ofString text')
    (same : entries.Perm
      (run { service := { service with concurrent := false }, machine } (visit c 5)).appended) :
    Text.lines text' ≠ Text.lines text ++ entries.map LogEntry.body := by
  have steady := steady_run { service with concurrent := true } uniform machine
    (quiet_visit c 5)
  have steady' := steady_run { service with concurrent := false } uniform machine
    (quiet_visit c 5)
  have appended := steady.appended_perm (ended_visit rfl)
  have appended' := steady'.appended_perm (ended_visit_serial rfl)
  rw [callers_visit, List.flatMap_singleton] at appended appended'
  replace appended := List.perm_singleton.mp (appended.trans (.of_eq recorded))
  have one : entries.length = 1 := (same.trans (appended'.trans (.of_eq recorded))).length_eq
  have whole := steady.log.content (neverFull_visit rfl 5 room)
  rw [appended] at whole
  have glued : text' = text ++ entry.render := by
    have bytes := (final.symm.trans whole).trans (congrArg (· ++ _) content)
    rw [EventLog.record_singleton, ← Bytes.ofString_append] at bytes
    have texts := congrArg Bytes.toString? bytes
    rw [Bytes.toString?_ofString, Bytes.toString?_ofString] at texts
    exact Option.some.inj texts
  have single : (Text.lines text').length = 1 := by
    rw [glued]
    exact (entry.isLine_render.behind feed ret).length_lines
  intro lines
  have two := congrArg List.length lines
  rw [single, List.length_append, List.length_map, one] at two
  have := List.length_pos_of_ne_nil started
  omega

end Unfinished

/-- A last line without a line feed is gone on with by the first entry, so that it is not one of the
lines of the log any more. -/
theorem unfinished_line_continued :
    ∃ (service : Service) (machine : Machine) (happenings : List Happening),
      let first : Server := { service := { service with concurrent := true }, machine }
      let a := first.run happenings
      let b := run { service := { service with concurrent := false }, machine } happenings
      let log := service.handler.log
      service.handler.sink.Uniform ∧ .shutdown ∉ happenings ∧
        (∀ slot ∈ a.slots, slot.isOver = true) ∧ (∀ slot ∈ b.slots, slot.isOver = true) ∧
        a.callers = b.callers ∧ NeverFull first happenings ∧
        log.content machine.files = .ofString "cut off" ∧
        ∀ (text' : String) (entries : List LogEntry),
          log.content a.machine.files = .ofString text' → entries.Perm b.appended →
          Text.lines text' ≠ Text.lines "cut off" ++ entries.map LogEntry.body := by
  have room : small.handler.log.HasRoom (small.handler.log.content (holding "cut off").files) :=
    hasRoom_holding (by decide)
  refine ⟨small, holding "cut off", visit sender 5, uniform_small, quiet_visit sender 5,
    ended_visit rfl, ended_visit_serial rfl, by rw [callers_visit, callers_visit],
    neverFull_visit rfl 5 room, content_holding, fun text' entries final same => ?_⟩
  exact continued_of_unfinished uniform_small content_holding room (by decide) (by decide)
    (by decide) recorded_sender final same

end Server

end Relay

end EventRelay
