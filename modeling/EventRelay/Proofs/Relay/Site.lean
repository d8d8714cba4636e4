import EventRelay.Proofs.Relay.Startup
import Mathlib.Logic.Function.Basic

/-!
Several processes on one machine: they start a relay from one configuration, stop it, or ask for
it, and each takes its steps between those of the others. Main statement: on the address of the
configuration only one of them listens.
-/

namespace EventRelay

namespace Machine

variable {m m' : Machine} {l k : Listener}

structure Holds (m : Machine) (l : Listener) : Prop where
  listens : l ∈ m.listeners
  alone : ∀ k ∈ m.listeners, k.address = l.address → k = l

theorem bind_ok (bound : m.bind l = .ok m') :
    (∀ k ∈ m.listeners, k.address ≠ l.address) ∧ m' = { m with listeners := l :: m.listeners } := by
  unfold bind at bound
  split at bound
  · cases bound
  · split at bound
    · cases bound
    · next free =>
      cases bound
      simpa using free

theorem listen_ok (listening : m.listen l = .ok m') :
    (∀ k ∈ m.listeners, k.address ≠ l.address) ∧ m' = { m with listeners := l :: m.listeners } := by
  unfold listen at listening
  split at listening
  · cases listening
  · next bound =>
    split at listening
    · cases listening
    · cases listening
      exact bind_ok bound

theorem category_of_listen {f : Failure} (failed : m.listen l = .error f) :
    f.category = .transport := by
  unfold listen at failed
  split at failed
  · cases failed
    rfl
  · split at failed
    · cases failed
      rfl
    · cases failed

namespace Holds

theorem unique (h : m.Holds l) (h' : m.Holds k) (same : k.address = l.address) : k = l :=
  h.alone k h'.listens same

theorem listen_error (h : m.Holds k) (same : k.address = l.address) :
    ∃ f, m.listen l = .error f := by
  cases listening : m.listen l with
  | error f => exact ⟨f, rfl⟩
  | ok m' => exact absurd same ((listen_ok listening).1 k h.listens)

theorem congr (h : m.Holds l) (same : m'.listeners = m.listeners) : m'.Holds l :=
  ⟨same ▸ h.listens, same ▸ h.alone⟩

theorem of_listen (listening : m.listen l = .ok m') : m'.Holds l := by
  obtain ⟨free, rfl⟩ := listen_ok listening
  refine ⟨List.mem_cons_self, fun k mem same => ?_⟩
  rcases List.mem_cons.mp mem with rfl | mem
  · rfl
  · exact absurd same (free k mem)

theorem listen (h : m.Holds k) (listening : m.listen l = .ok m') : m'.Holds k := by
  obtain ⟨free, rfl⟩ := listen_ok listening
  refine ⟨List.mem_cons_of_mem _ h.listens, fun j mem same => ?_⟩
  rcases List.mem_cons.mp mem with rfl | mem
  · exact absurd same.symm (free k h.listens)
  · exact h.alone j mem same

theorem filter (h : m.Holds l) {keep : Listener → Bool} (kept : keep l = true) :
    ({ m with listeners := m.listeners.filter keep } : Machine).Holds l :=
  ⟨List.mem_filter.mpr ⟨h.listens, kept⟩, fun k mem => h.alone k (List.mem_filter.mp mem).1⟩

theorem close (h : m.Holds l) (other : l.pid ≠ k.pid) : (m.close k).Holds l :=
  h.filter (bne_iff_ne.mpr fun eq => other (congrArg Listener.pid eq))

end Holds

end Machine

namespace Relay

namespace Startup

def isBound : Startup → Bool
  | .claiming .. | .up _ => true
  | _ => false

def Own (c : Config) (pid : Nat) : Startup → Prop
  | .claiming _ claim => ∀ p, claim = .settled (.ok p) → p = ⟨c.daemon.pidFile, pid⟩
  | .up s => s.listener.pid = pid ∧ s.pidFile = ⟨c.daemon.pidFile, pid⟩
  | _ => True

variable {c : Config} {sink : Sink} {ps : Processes} {m : Machine} {startup : Startup}

theorem step_listeners (c : Config) (sink : Sink) (ps : Processes) (m : Machine)
    (startup : Startup) :
    (step c sink ps m startup).1.listeners = m.listeners ∧
        ((step c sink ps m startup).2.isBound = true → startup.isBound = true) ∨
      m.listen ⟨c.server.listenAddress, ps.self⟩ = .ok (step c sink ps m startup).1 ∨
      (step c sink ps m startup).1 = m.close ⟨c.server.listenAddress, ps.self⟩ ∧
        (step c sink ps m startup).2.isBound = false := by
  unfold step
  split
  · exact .inl ⟨rfl, id⟩
  · exact .inl ⟨rfl, id⟩
  · exact .inl ⟨rfl, id⟩
  · exact .inl ⟨rfl, id⟩
  · split <;> exact .inl ⟨rfl, id⟩
  · split
    · exact .inl ⟨rfl, id⟩
    · next listening => exact .inr (.inl listening)
  · exact .inl ⟨rfl, id⟩
  · exact .inr (.inr ⟨rfl, rfl⟩)
  · exact .inl ⟨rfl, id⟩
  · exact .inl ⟨rfl, id⟩
  · exact .inl ⟨rfl, id⟩

theorem holds_step {l : Listener} (h : m.Holds l) (other : l.pid ≠ ps.self) :
    (step c sink ps m startup).1.Holds l := by
  rcases step_listeners c sink ps m startup with ⟨same, -⟩ | listening | ⟨closed, -⟩
  · exact h.congr same
  · exact h.listen listening
  · rw [closed]
    exact h.close other

theorem holds_step_self
    (h : startup.isBound = true → m.Holds ⟨c.server.listenAddress, ps.self⟩)
    (listens : (step c sink ps m startup).2.isBound = true) :
    (step c sink ps m startup).1.Holds ⟨c.server.listenAddress, ps.self⟩ := by
  rcases step_listeners c sink ps m startup with ⟨same, before⟩ | listening | ⟨-, silent⟩
  · exact (h (before listens)).congr same
  · exact .of_listen listening
  · rw [silent] at listens
    cases listens

theorem own_step (own : startup.Own c ps.self) : (step c sink ps m startup).2.Own c ps.self := by
  unfold step
  split
  · trivial
  · trivial
  · trivial
  · trivial
  · split <;> trivial
  · split
    · trivial
    · exact fun _ settled => by cases settled
  · exact ⟨rfl, own _ rfl⟩
  · trivial
  · next claim unsettled _ =>
    intro p settled
    rcases PidFile.Claim.ok_of_step settled with before | ⟨-, written, -⟩
    · exact absurd before (unsettled p)
    · exact written
  · exact own
  · trivial

end Startup

inductive Task
  | relay (startup : Startup)
  | leaving (p : PidFile) (release : PidFile.Release)
  | asking (lookup : PidFile.Lookup)
  | other

namespace Task

def step (c : Config) (sink : Sink) (ps : Processes) (m : Machine) : Task → Machine × Task
  | .relay startup =>
    let (m, startup) := Startup.step c sink ps m startup
    (m, .relay startup)
  | .leaving p release =>
    let (files, release) := release.step p m.files
    ({ m with files }, .leaving p release)
  | .asking lookup =>
    let (files, lookup) := lookup.step ps c.daemon.pidFile m.files
    ({ m with files }, .asking lookup)
  | .other => (m, .other)

def isBound : Task → Bool
  | .relay startup => startup.isBound
  | _ => false

def Own (c : Config) (pid : Nat) : Task → Prop
  | .relay startup => startup.Own c pid
  | .leaving p _ => p = ⟨c.daemon.pidFile, pid⟩
  | _ => True

structure Sound (c : Config) (m : Machine) (pid : Nat) (task : Task) : Prop where
  positive : 0 < pid
  small : pid ≤ Processes.maxPid
  own : task.Own c pid
  holds : task.isBound = true → m.Holds ⟨c.server.listenAddress, pid⟩

variable {c : Config} {sink : Sink} {ps : Processes} {m : Machine} {task : Task}

theorem holds_step {l : Listener} (h : m.Holds l) (other : l.pid ≠ ps.self) :
    (task.step c sink ps m).1.Holds l := by
  cases task with
  | relay startup => exact Startup.holds_step h other
  | leaving p release => exact h.congr rfl
  | asking lookup => exact h.congr rfl
  | other => exact h

theorem Sound.step (sound : task.Sound c m ps.self) :
    (task.step c sink ps m).2.Sound c (task.step c sink ps m).1 ps.self := by
  refine ⟨sound.positive, sound.small, ?_, ?_⟩
  · cases task with
    | relay startup => exact Startup.own_step sound.own
    | leaving p release => exact sound.own
    | asking lookup => trivial
    | other => trivial
  · cases task with
    | relay startup => exact Startup.holds_step_self sound.holds
    | leaving p release => exact fun listens => by cases listens
    | asking lookup => exact fun listens => by cases listens
    | other => exact fun listens => by cases listens

def run (c : Config) (sink : Sink) (ps : Processes) (m : Machine) (task : Task) :
    (steps : Nat) → Machine × Task
  | 0 => (m, task)
  | n + 1 => run c sink ps (task.step c sink ps m).1 (task.step c sink ps m).2 n

theorem run_relay (startup : Startup) (n : Nat) :
    (Task.relay startup).run c sink ps m n =
      ((Startup.run c sink ps n (m, startup)).1,
        .relay (Startup.run c sink ps n (m, startup)).2) := by
  induction n generalizing m startup with
  | zero => rfl
  | succ n ih => exact ih _

theorem run_asking (lookup : PidFile.Lookup) (n : Nat) :
    (Task.asking lookup).run c sink ps m n =
      ({ m with files := (PidFile.Lookup.run ps c.daemon.pidFile n (m.files, lookup)).1 },
        .asking (PidFile.Lookup.run ps c.daemon.pidFile n (m.files, lookup)).2) := by
  induction n generalizing m lookup with
  | zero => rfl
  | succ n ih => exact ih _

end Task

inductive Program
  | relay
  | query
  | other

def Program.task : Program → Task
  | .relay => .relay (.checking .looking)
  | .query => .asking .looking
  | .other => .other

inductive Change
  | launch (pid : Nat) (program : Program)
  | step (pid : Nat)
  /-- A relay that is up begins its teardown. -/
  | stop (pid : Nat)
  /-- A process ends, by itself or not, and listens no more. -/
  | exit (pid : Nat)

def Change.pid : Change → Nat
  | .launch pid _ | .step pid | .stop pid | .exit pid => pid

structure Site where
  machine : Machine
  tasks : Nat → Option Task := fun _ => none

namespace Site

def processes (s : Site) (pid : Nat) : Processes := ⟨pid, fun p => (s.tasks p).isSome⟩

def put (s : Site) (machine : Machine) (pid : Nat) (task : Option Task) : Site :=
  { machine, tasks := Function.update s.tasks pid task }

def next (c : Config) (sink : Sink) (s : Site) : Change → Site
  | .launch pid program =>
    if 0 < pid ∧ pid ≤ Processes.maxPid ∧ (s.tasks pid).isNone then
      s.put s.machine pid (some program.task)
    else s
  | .step pid =>
    match s.tasks pid with
    | none => s
    | some task =>
      let (machine, task) := task.step c sink (s.processes pid) s.machine
      s.put machine pid (some task)
  | .stop pid =>
    match s.tasks pid with
    | some (.relay (.up service)) =>
      s.put (s.machine.close service.listener) pid (some (.leaving service.pidFile .reading))
    | _ => s
  | .exit pid =>
    s.put { s.machine with listeners := s.machine.listeners.filter (·.pid != pid) } pid none

def run (c : Config) (sink : Sink) (s : Site) (changes : List Change) : Site :=
  changes.foldl (next c sink) s

def isUp (s : Site) (pid : Nat) : Bool :=
  match s.tasks pid with
  | some (.relay (.up _)) => true
  | _ => false

variable {c : Config} {sink : Sink} {s : Site} {m : Machine} {pid p : Nat} {new : Option Task}

theorem isUp_iff : s.isUp pid = true ↔ ∃ service, s.tasks pid = some (.relay (.up service)) := by
  unfold isUp
  split
  · next service up => exact ⟨fun _ => ⟨service, up⟩, fun _ => rfl⟩
  · next other =>
    constructor
    · intro up
      cases up
    · rintro ⟨service, up⟩
      exact absurd up (other service)

theorem run_concat (changes : List Change) (change : Change) :
    run c sink s (changes ++ [change]) = next c sink (run c sink s changes) change :=
  List.foldl_concat ..

theorem tasks_put : (s.put m p new).tasks pid = if pid = p then new else s.tasks pid :=
  Function.update_apply ..

theorem tasks_next {change : Change} (other : change.pid ≠ pid) :
    (next c sink s change).tasks pid = s.tasks pid := by
  have put (m : Machine) (new : Option Task) :
      (s.put m change.pid new).tasks pid = s.tasks pid := by
    rw [tasks_put, if_neg other.symm]
  cases change with
  | launch p program =>
    rw [next]
    split
    · exact put _ _
    · rfl
  | step p =>
    rw [next]
    split
    · rfl
    · exact put _ _
  | stop p =>
    rw [next]
    split
    · exact put _ _
    · rfl
  | exit p => exact put _ _

theorem tasks_run {changes : List Change} (others : ∀ change ∈ changes, change.pid ≠ pid) :
    (run c sink s changes).tasks pid = s.tasks pid := by
  induction changes generalizing s with
  | nil => rfl
  | cons change changes ih =>
    obtain ⟨other, others⟩ := List.forall_mem_cons.mp others
    exact (ih others).trans (tasks_next other)

theorem run_append (earlier later : List Change) :
    run c sink s (earlier ++ later) = run c sink (run c sink s earlier) later :=
  List.foldl_append ..

theorem put_put {m' : Machine} {new' : Option Task} :
    (s.put m p new).put m' p new' = s.put m' p new' := by
  simp [put]

theorem put_self (present : s.tasks pid = new) : s.put s.machine pid new = s := by
  simp [put, ← present]

theorem processes_put {task task' : Task} (present : s.tasks pid = some task) :
    (s.put m pid (some task')).processes p = s.processes p := by
  simp only [processes, tasks_put, Processes.mk.injEq, true_and]
  funext q
  split
  · next eq => rw [eq, present]; rfl
  · rfl

theorem next_step {task : Task} (present : s.tasks pid = some task) :
    next c sink s (.step pid) =
      s.put (task.step c sink (s.processes pid) s.machine).1 pid
        (some (task.step c sink (s.processes pid) s.machine).2) := by
  rw [next, present]

theorem run_steps {task : Task} (present : s.tasks pid = some task) (n : Nat) :
    run c sink s (List.replicate n (.step pid)) =
      s.put (task.run c sink (s.processes pid) s.machine n).1 pid
        (some (task.run c sink (s.processes pid) s.machine n).2) := by
  induction n generalizing s task with
  | zero => exact (put_self present).symm
  | succ n ih =>
    have present' : (s.put (task.step c sink (s.processes pid) s.machine).1 pid
        (some (task.step c sink (s.processes pid) s.machine).2)).tasks pid = some _ :=
      tasks_put.trans (if_pos rfl)
    rw [List.replicate_succ, run, List.foldl_cons, next_step present]
    refine (ih present').trans ?_
    rw [processes_put present, put_put]
    rfl

theorem run_launch {program : Program} (unused : s.tasks pid = none) (positive : 0 < pid)
    (small : pid ≤ Processes.maxPid) (n : Nat) :
    let ps := (s.put s.machine pid (some program.task)).processes pid
    run c sink s (.launch pid program :: List.replicate n (.step pid)) =
      s.put (program.task.run c sink ps s.machine n).1 pid
        (some (program.task.run c sink ps s.machine n).2) := by
  rw [run, List.foldl_cons, next, if_pos ⟨positive, small, by simp [unused]⟩]
  exact (run_steps (tasks_put.trans (if_pos rfl)) n).trans put_put

def Sound (c : Config) (s : Site) : Prop :=
  ∀ pid task, s.tasks pid = some task → task.Sound c s.machine pid

namespace Sound

theorem empty (machine : Machine) : ({ machine } : Site).Sound c := fun _ _ found => by cases found

theorem put (sound : s.Sound c) (others : ∀ l, l.pid ≠ p → s.machine.Holds l → m.Holds l)
    (own : ∀ task, new = some task → task.Sound c m p) : (s.put m p new).Sound c := by
  intro pid task present
  rw [tasks_put] at present
  split at present
  · next eq =>
    subst eq
    exact own task present
  · next ne =>
    have before := sound pid task present
    exact { before with holds := fun listens => others _ ne (before.holds listens) }

theorem next (sound : s.Sound c) (change : Change) : (next c sink s change).Sound c := by
  cases change with
  | launch pid program =>
    rw [Site.next]
    split
    · next free =>
      refine sound.put (fun _ _ holds => holds) ?_
      rintro _ ⟨⟩
      refine ⟨free.1, free.2.1, ?_, ?_⟩
      · cases program <;> trivial
      · cases program <;> exact fun listens => by cases listens
    · exact sound
  | step pid =>
    rw [Site.next]
    split
    · exact sound
    · next task present =>
      refine sound.put (fun _ other holds => Task.holds_step holds other) ?_
      rintro _ ⟨⟩
      have before : task.Sound c s.machine (s.processes pid).self := sound pid task present
      exact before.step
  | stop pid =>
    rw [Site.next]
    split
    · next service up =>
      have ⟨positive, small, own, _⟩ := sound pid _ up
      refine sound.put (fun _ other holds => holds.close (own.1 ▸ other)) ?_
      rintro _ ⟨⟩
      exact ⟨positive, small, own.2, fun listens => by cases listens⟩
    · exact sound
  | exit pid =>
    exact sound.put (fun _ other holds => holds.filter (bne_iff_ne.mpr other))
      fun _ gone => by cases gone

theorem run (sound : s.Sound c) (changes : List Change) : (run c sink s changes).Sound c := by
  induction changes generalizing s with
  | nil => exact sound
  | cons change changes ih => exact ih (sound.next change)

theorem unique (sound : s.Sound c) {task task' : Task} (present : s.tasks pid = some task)
    (present' : s.tasks p = some task') (listens : task.isBound = true)
    (listens' : task'.isBound = true) : pid = p :=
  congrArg Listener.pid
    (((sound p task' present').holds listens').unique ((sound pid task present).holds listens) rfl)

end Sound

end Site

end Relay

end EventRelay
