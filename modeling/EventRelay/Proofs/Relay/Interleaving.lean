import EventRelay.Proofs.Connection.Course
import EventRelay.Proofs.Relay.Moves
import EventRelay.Proofs.Relay.SharedLog
import EventRelay.Proofs.Relay.Startup

/-!
Connections that a relay serves side by side. Main statement: in whatever order they take their
steps and whenever a shutdown abandons them, each is logged, delivered and answered at most once and
truthfully, and the log holds the latest of the entries appended, in order.
-/

namespace EventRelay.Relay

def entryAt? (h : Handler) (connections : List (Caller × Stage)) (i : Nat) : Option LogEntry :=
  connections[i]?.bind fun x => h.entryOf? x.1

section Entries

variable {h : Handler} {connections : List (Caller × Stage)}

theorem entryAt?_set {i : Nat} {c : Caller} {stage : Stage}
    (before : connections[i]? = some (c, stage)) (stage' : Stage) :
    entryAt? h (connections.set i (c, stage')) = entryAt? h connections := by
  funext j
  unfold entryAt?
  rw [List.getElem?_set]
  split
  · next eq =>
    subst eq
    rw [if_pos (List.getElem?_eq_some_iff.mp before).1, before]
    rfl
  · rfl

theorem entryAt?_append {j : Nat} (inside : j < connections.length) (c : Caller) (stage : Stage) :
    entryAt? h (connections ++ [(c, stage)]) j = entryAt? h connections j := by
  unfold entryAt?
  rw [List.getElem?_append_left inside]

end Entries

def appender? : Nat × Effect → Option Nat
  | (i, .logged (.ok ())) => some i
  | _ => none

theorem appender?_eq_some {i : Nat} {p : Nat × Effect} :
    appender? p = some i ↔ p = (i, .logged (.ok ())) := by
  unfold appender?
  split
  · simp
  · next other =>
    constructor
    · intro h
      cases h
    · intro h
      exact absurd h (other i)

theorem appenders_quiet {shown : List Effect} (quiet : .logged (.ok ()) ∉ shown) (i : Nat) :
    (shown.map fun e => (i, e)).filterMap appender? = [] := by
  rw [List.filterMap_eq_nil_iff]
  intro p hp
  obtain ⟨e, he, rfl⟩ := List.mem_map.mp hp
  rw [Option.eq_none_iff_forall_ne_some]
  intro j eq
  cases appender?_eq_some.mp eq
  exact quiet he

namespace Server

def shown (s : Server) (i : Nat) : List Effect :=
  s.effects.filterMap fun (j, e) => if j = i then some e else none

def appenders (s : Server) : List Nat := s.effects.filterMap appender?

def entryOf? (s : Server) (i : Nat) : Option LogEntry :=
  entryAt? s.service.handler s.connections i

def appended (s : Server) : List LogEntry := s.appenders.filterMap s.entryOf?

/--
In the course of some happenings connection `i` has called the sink with the message of an event
that it had logged before, and the sink has taken it in time.
-/
def Taken (first : Server) (happenings : List Happening) (i : Nat) (event : Event)
    (recipients : Recipients) : Prop :=
  ∃ earlier later caller stage, happenings = earlier ++ .progress i :: later ∧
    let s := first.run earlier
    let h := s.service.handler
    let delivery := h.sink.deliver ⟨s.machine.files, caller.call⟩ (Message.ofEvent event)
    s.connections[i]? = some (caller, stage) ∧ (i, .logged (.ok ())) ∈ s.effects ∧
      (s.next (.progress i)).effects =
        s.effects ++ [(i, .delivered (Message.ofEvent event) delivery.acts)] ∧
      delivery.within h.deliveryTimeoutMs h.sink.name = .ok recipients

theorem Taken.later {first : Server} {happenings : List Happening} {i : Nat} {event : Event}
    {recipients : Recipients} (taken : Taken first happenings i event recipients)
    (happening : Happening) : Taken first (happenings ++ [happening]) i event recipients := by
  obtain ⟨earlier, later, caller, stage, rfl, moment⟩ := taken
  exact ⟨earlier, later ++ [happening], caller, stage, by simp, moment⟩

theorem run_concat (s : Server) (happenings : List Happening) (happening : Happening) :
    s.run (happenings ++ [happening]) = (s.run happenings).next happening := by
  simp [run]

structure Stored (first : Server) (l k : Location) (s : Server) : Prop where
  log : LogState first.service.handler l s.connections s.machine.files s.appended
  pidFile : s.phase ≠ .stopped → ∃ content,
    s.machine.files.find first.service.pidFile.path = .ok (k, .file content)

structure Coherent (first : Server) (l k : Location) (happenings : List Happening) (s : Server) :
    Prop where
  service : s.service = first.service
  known : ∀ p ∈ s.effects, p.1 < s.connections.length
  course : ∀ i c stage, s.connections[i]? = some (c, stage) →
    first.service.handler.Course c (Taken first happenings i) stage (s.shown i)
  stored : Stored first l k s
  apart : l ≠ k

variable {first s s' : Server} {l k : Location} {happenings : List Happening}
  {happening : Happening}

theorem shown_of_effects (same : s'.effects = s.effects) (i : Nat) : s'.shown i = s.shown i := by
  unfold shown
  rw [same]

theorem shown_of_new {i : Nat} {new : List Effect}
    (more : s'.effects = s.effects ++ new.map fun e => (i, e)) :
    s'.shown i = s.shown i ++ new ∧ ∀ j ≠ i, s'.shown j = s.shown j := by
  unfold shown
  rw [more]
  constructor
  · simp [List.filterMap_append, List.filterMap_map]
  · intro j other
    simp [List.filterMap_append, List.filterMap_map, other.symm]

theorem mem_effects_of_shown {i : Nat} {e : Effect} (h : e ∈ s.shown i) : (i, e) ∈ s.effects := by
  obtain ⟨⟨j, e'⟩, mem, eq⟩ := List.mem_filterMap.mp h
  simp only at eq
  split at eq
  · next same =>
    cases eq
    rw [← same]
    exact mem
  · cases eq

def Numbered (s : Server) : Prop := ∀ p ∈ s.effects, p.1 < s.connections.length

theorem Numbered.shown_nil (numbered : s.Numbered) {i : Nat}
    (outside : s.connections.length ≤ i) : s.shown i = [] := by
  cases hs : s.shown i with
  | nil => rfl
  | cons e rest =>
    have mem : e ∈ s.shown i := hs ▸ List.mem_cons_self
    exact absurd (numbered _ (mem_effects_of_shown mem)) (Nat.not_lt_of_le outside)

theorem Coherent.numbered (coherent : Coherent first l k happenings s) : s.Numbered :=
  coherent.known

theorem Coherent.course_next (coherent : Coherent first l k happenings s)
    (here : first.run happenings = s) (change : s.Change happening (s.next happening)) :
    ∀ i c stage, (s.next happening).connections[i]? = some (c, stage) →
      first.service.handler.Course c (Taken first (happenings ++ [happening]) i) stage
        ((s.next happening).shown i) := by
  have later (i) : ∀ event recipients, Taken first happenings i event recipients →
      Taken first (happenings ++ [happening]) i event recipients :=
    fun _ _ taken => taken.later happening
  intro i c stage found
  cases change with
  | none connections effects _ =>
    rw [connections] at found
    rw [shown_of_effects effects]
    exact (coherent.course i c stage found).mono (later i)
  | accepted c' connections effects _ =>
    rw [connections, List.getElem?_append] at found
    rw [shown_of_effects effects]
    split at found
    · exact (coherent.course i c stage found).mono (later i)
    · next outside =>
      rw [List.getElem?_singleton] at found
      split at found <;> cases found
      rw [coherent.numbered.shown_nil (Nat.le_of_not_lt outside)]
      exact .waiting
  | advanced j c' stage' happened before _ connections effects _ =>
    obtain ⟨own, others⟩ := shown_of_new effects
    rw [connections, List.getElem?_set] at found
    split at found
    · next same =>
      subst same
      rw [if_pos (List.getElem?_eq_some_iff.mp before).1] at found
      cases found
      rw [own, coherent.service]
      have course := coherent.course j _ _ before
      -- If the sink takes the message, this very step is the moment at which it does.
      refine (course.mono (later j)).step _ fun event recipients delivering taken => ?_
      subst delivering happened here
      have logged : .logged (.ok ()) ∈ (first.run happenings).shown j := by
        rw [course.shown_delivering]
        exact List.mem_cons_self
      refine ⟨happenings, [], c, _, rfl, before, mem_effects_of_shown logged, effects, ?_⟩
      rw [coherent.service]
      exact taken
    · next other =>
      rw [others i (Ne.symm other)]
      exact (coherent.course i c stage found).mono (later i)
  | released _ _ connections effects _ =>
    rw [connections] at found
    rw [shown_of_effects effects]
    exact (coherent.course i c stage found).mono (later i)

theorem appended_of_same (service : s'.service = s.service)
    (connections : s'.connections = s.connections) (effects : s'.effects = s.effects) :
    s'.appended = s.appended := by
  unfold appended appenders entryOf?
  rw [service, connections, effects]

theorem mem_effects_of_appenders {i : Nat} (h : i ∈ s.appenders) :
    (i, .logged (.ok ())) ∈ s.effects := by
  obtain ⟨p, mem, eq⟩ := List.mem_filterMap.mp h
  rw [← appender?_eq_some.mp eq]
  exact mem

theorem Numbered.appended_accepted (numbered : s.Numbered) {c : Caller}
    (service : s'.service = s.service)
    (connections : s'.connections = s.connections ++ [(c, .waiting)])
    (effects : s'.effects = s.effects) : s'.appended = s.appended := by
  unfold appended appenders entryOf?
  rw [service, connections, effects]
  apply List.filterMap_congr
  intro i hi
  exact entryAt?_append (numbered _ (mem_effects_of_appenders hi)) c .waiting

theorem unlocked_of_free (free : s.isLogLocked = false) :
    ∀ x ∈ s.connections, x.2.holdsLock = false := by
  rw [isLogLocked_eq, List.any_eq_false] at free
  intro x hx
  exact Bool.eq_false_iff.mpr (free x hx)

theorem Coherent.pidFile_put (coherent : Coherent first l k happenings s)
    (file : s.machine.files.node? l ≠ some .directory) (node : FileNode)
    (running : s.phase ≠ .stopped) : ∃ content,
      (s.machine.files.put l node).find first.service.pidFile.path = .ok (k, .file content) := by
  obtain ⟨content, found⟩ := coherent.stored.pidFile running
  exact ⟨content, FileSystem.find_put_of_ne found coherent.apart.symm file node⟩

structure Advanced (h : Handler) (s s' : Server) (i : Nat) (c : Caller) (stage : Stage) :
    Prop where
  service : s'.service = s.service
  running : s'.phase ≠ .stopped → s.phase ≠ .stopped
  before : s.connections[i]? = some (c, stage)
  connections : s'.connections = s.connections.set i (c, (h.step c s.machine.files stage).stage)
  effects : s'.effects =
    s.effects ++ (h.step c s.machine.files stage).effects.map fun e => (i, e)
  files : s'.machine.files = (h.step c s.machine.files stage).files

section Advanced

variable {i : Nat} {c : Caller} {stage : Stage}

theorem Advanced.appended {h : Handler} (step : Advanced h s s' i c stage) :
    s'.appended = s.appended ++
      (((h.step c s.machine.files stage).effects.map fun e => (i, e)).filterMap
        appender?).filterMap s.entryOf? := by
  unfold Server.appended appenders entryOf?
  rw [step.service, step.connections, step.effects, entryAt?_set step.before,
    List.filterMap_append, List.filterMap_append]

theorem Advanced.appended_of_quiet {h : Handler} (step : Advanced h s s' i c stage)
    (quiet : .logged (.ok ()) ∉ (h.step c s.machine.files stage).effects) :
    s'.appended = s.appended := by
  rw [step.appended, appenders_quiet quiet, List.filterMap_nil, List.append_nil]

theorem Coherent.stored_finish (coherent : Coherent first l k happenings s) {event : Event}
    {pending : EventLog.Pending}
    (step : Advanced first.service.handler s s' i c (.writing event pending)) :
    Stored first l k s' := by
  obtain ⟨entry, content, accepted, finished, file, state⟩ :=
    coherent.stored.log.finish step.before (.delivering event (.ok ())) rfl
  have known : s.entryOf? i = some entry := by
    rw [entryOf?, entryAt?, coherent.service, step.before]
    exact accepted
  have appended : s'.appended = s.appended ++ [entry] := by
    rw [step.appended]
    change _ ++ [i].filterMap s.entryOf? = _
    rw [List.filterMap_cons, known]
    rfl
  have files : s'.machine.files = pending.finish s.machine.files := step.files
  constructor
  · rw [appended, step.connections, files]
    exact state
  · rw [files, finished]
    exact fun h => coherent.pidFile_put file _ (step.running h)

theorem Coherent.stored_start (coherent : Coherent first l k happenings s) {event : Event}
    {entry : LogEntry} (step : Advanced first.service.handler s s' i c (.logging event entry))
    (free : s.isLogLocked = false) : Stored first l k s' := by
  have accepted := (coherent.course i c _ step.before).accepted
  obtain ⟨kept, p, start, file, state⟩ := coherent.stored.log.start step.before
    (unlocked_of_free free) (Handler.entryOf?_of_accepted accepted)
  have stepped : first.service.handler.step c s.machine.files (.logging event entry) = _ :=
    Handler.step_logging start
  have appended : s'.appended = s.appended := by
    apply step.appended_of_quiet
    rw [stepped]
    exact List.not_mem_nil
  constructor
  · rw [appended, step.connections, step.files, stepped]
    exact state event
  · rw [step.files, stepped]
    exact fun h => coherent.pidFile_put file _ (step.running h)

theorem Coherent.stored_quiet (coherent : Coherent first l k happenings s)
    (step : Advanced first.service.handler s s' i c stage)
    (notLogging : ∀ event entry, stage ≠ .logging event entry)
    (notWriting : stage.holdsLock = false) : Stored first l k s' := by
  obtain ⟨same, unlocked, quiet⟩ := Handler.step_quiet (h := first.service.handler) (c := c)
    notLogging notWriting s.machine.files
  constructor
  · rw [step.appended_of_quiet quiet, step.connections, step.files, same]
    exact coherent.stored.log.quiet step.before notWriting unlocked
  · rw [step.files, same]
    exact fun h => coherent.stored.pidFile (step.running h)

theorem Coherent.stored_advanced (coherent : Coherent first l k happenings s)
    (step : Advanced first.service.handler s s' i c stage)
    (free : ∀ event entry, stage = .logging event entry → s.isLogLocked = false) :
    Stored first l k s' := by
  cases stage with
  | logging event entry => exact coherent.stored_start step (free event entry rfl)
  | writing event pending => exact coherent.stored_finish step
  | waiting | delivering | answering | ended =>
    exact coherent.stored_quiet step (fun _ _ eq => by cases eq) rfl

end Advanced

theorem Coherent.stored_next (coherent : Coherent first l k happenings s)
    (move : s.Move happening s') : Stored first l k s' := by
  have service := move.service.trans coherent.service
  have running (h : s'.phase ≠ .stopped) : s.phase ≠ .stopped := fun stopped =>
    h (move.stays stopped)
  cases move.change with
  | none connections effects files =>
    constructor
    · rw [connections, files, appended_of_same move.service connections effects]
      exact coherent.stored.log
    · rw [files]
      exact fun h => coherent.stored.pidFile (running h)
  | accepted c connections effects files =>
    constructor
    · rw [connections, files, coherent.numbered.appended_accepted move.service connections effects]
      exact coherent.stored.log.accept c
    · rw [files]
      exact fun h => coherent.stored.pidFile (running h)
  | advanced i c stage happened before free connections effects files =>
    rw [coherent.service] at connections effects files
    exact coherent.stored_advanced
      ⟨move.service, running, before, connections, effects, files⟩ free
  | released phase stopped connections effects files =>
    constructor
    · rw [connections, files, appended_of_same move.service connections effects, coherent.service]
      rcases first.service.pidFile.release_files s.machine.files with same | ⟨m, _, found, erased⟩
      · rw [same]
        exact coherent.stored.log
      · obtain ⟨content, at'⟩ := coherent.stored.pidFile phase
        rw [at'] at found
        cases found
        rw [erased]
        exact coherent.stored.log.frame fun _ logFound => FileSystem.find_erase_of_ne logFound
          coherent.apart (FileSystem.not_directory_of_find at')
    · exact fun h => absurd stopped h

theorem Numbered.next (numbered : s.Numbered) (change : s.Change happening s') :
    s'.Numbered := by
  intro p hp
  cases change with
  | none connections effects _ =>
    rw [connections]
    rw [effects] at hp
    exact numbered p hp
  | accepted c connections effects _ =>
    rw [connections, List.length_append]
    rw [effects] at hp
    exact Nat.lt_add_right _ (numbered p hp)
  | advanced i c stage _ before _ connections effects _ =>
    rw [connections, List.length_set]
    rw [effects] at hp
    rcases List.mem_append.mp hp with old | new
    · exact numbered p old
    · obtain ⟨e, -, rfl⟩ := List.mem_map.mp new
      exact (List.getElem?_eq_some_iff.mp before).1
  | released _ _ connections effects _ =>
    rw [connections]
    rw [effects] at hp
    exact numbered p hp

theorem Coherent.next (coherent : Coherent first l k happenings s)
    (here : first.run happenings = s) (happening : Happening) :
    Coherent first l k (happenings ++ [happening]) (s.next happening) := by
  have move := s.next_move happening
  exact
    { service := move.service.trans coherent.service
      known := coherent.numbered.next move.change
      course := coherent.course_next here move.change
      stored := coherent.stored_next move
      apart := coherent.apart }

theorem Coherent.run (start : Coherent first l k [] first) (happenings : List Happening) :
    Coherent first l k happenings (first.run happenings) := by
  induction happenings using List.reverseRecOn with
  | nil => exact start
  | append_singleton happenings happening ih =>
    rw [run_concat]
    exact ih.next rfl happening

theorem coherent_first {c : Config} {sink : Sink} {ps : Processes} {m started : Machine}
    {service : Service} (start : Relay.start c sink ps m = (started, .ok service))
    (empty : started.files.read c.log.path = .ok []) :
    ∃ l k, Coherent { service, machine := started } l k [] { service, machine := started } := by
  obtain ⟨rfl, recorded⟩ := start_ok start
  obtain ⟨l, log⟩ := FileSystem.find_of_read empty
  obtain ⟨k, pidFile⟩ := FileSystem.find_of_read recorded
  refine ⟨l, k, rfl, fun _ h => (by cases h), fun _ _ _ h => (by cases h), ⟨?_, ?_⟩, ?_⟩
  · refine .free (fun _ h => by cases h) ?_
    rw [show (EventLog.record _) = "" from rfl, Bytes.ofString_empty]
    exact log
  · exact fun _ => ⟨_, pidFile⟩
  · -- The log is empty and the PID file is not, so they are two files.
    rintro rfl
    have same := (FileSystem.node?_of_find log).symm.trans (FileSystem.node?_of_find pidFile)
    rw [Option.some.injEq, FileNode.file.injEq] at same
    exact PidFile.ofString_text_ne_nil _ same.symm

theorem Coherent.course_of_shown (coherent : Coherent first l k happenings s) (i : Nat) :
    ∃ c stage, first.service.handler.Course c (Taken first happenings i) stage (s.shown i) := by
  cases found : s.connections[i]? with
  | some x => exact ⟨x.1, x.2, coherent.course i x.1 x.2 found⟩
  | none =>
    refine ⟨{ name := "", incoming := ⟨[], false⟩, receivedAt := 0, answeredAt := 0 }, .waiting, ?_⟩
    rw [coherent.numbered.shown_nil (List.getElem?_eq_none_iff.mp found)]
    exact .waiting

theorem Coherent.map_entryOf?_appenders (coherent : Coherent first l k happenings s) :
    s.appenders.map s.entryOf? = s.appended.map some := by
  unfold appended
  rw [List.map_filterMap_some_eq_filter_map_isSome, List.filter_eq_self.mpr]
  intro e he
  obtain ⟨i, hi, rfl⟩ := List.mem_map.mp he
  have mem := mem_effects_of_appenders hi
  have inside : i < s.connections.length := coherent.known _ mem
  obtain ⟨x, found⟩ : ∃ x, s.connections[i]? = some x := ⟨_, List.getElem?_eq_getElem inside⟩
  have course := coherent.course i _ _ found
  have shown : .logged (.ok ()) ∈ s.shown i :=
    List.mem_filterMap.mpr ⟨_, mem, if_pos rfl⟩
  obtain ⟨entry, known⟩ := course.entry_of_logged shown
  rw [entryOf?, entryAt?, found, coherent.service, Option.bind_some, known]
  rfl

/--
Connections that are served side by side, in any order of their steps and with a shutdown at any
moment. Each shows at most one append, one call of the sink, which comes after the end of the
append, and one reply, which is a success only if both went well. Whenever nobody has the lock, the
log holds the latest of the entries appended, in the order of the appends.
-/
theorem run_truthful {c : Config} {sink : Sink} {ps : Processes} {m started : Machine}
    {service : Service} (start : Relay.start c sink ps m = (started, .ok service))
    (empty : started.files.read c.log.path = .ok []) (happenings : List Happening) :
    let first : Server := { service, machine := started }
    let s := first.run happenings
    (∀ i, (s.shown i).countP Effect.isLogged ≤ 1 ∧ (s.shown i).countP Effect.isDelivered ≤ 1 ∧
      (s.shown i).countP Effect.isReplied ≤ 1) ∧
    (∀ i before message acts after, s.shown i = before ++ .delivered message acts :: after →
      ∃ result, .logged result ∈ before) ∧
    (∀ i line ack, .replied line ∈ s.shown i → Acknowledgement.decode line = .ok ack →
      ack.isSuccess = true → ∃ event acts rest,
        Taken first happenings i event ack.recipients ∧
        s.shown i =
          [.logged (.ok ()), .delivered (Message.ofEvent event) acts, .replied line] ++ rest) ∧
    (s.isLogLocked = false → ∃ entries, s.appenders.map s.entryOf? = entries.map some ∧
      (EventLog.ofConfig c.log).kept entries <:+ entries ∧
      (entries ≠ [] → (EventLog.ofConfig c.log).kept entries ≠ []) ∧
      s.machine.files.read c.log.path =
        .ok (.ofString (EventLog.record ((EventLog.ofConfig c.log).kept entries)))) := by
  obtain ⟨l, k, coherent⟩ := coherent_first start empty
  obtain ⟨rfl, -⟩ := start_ok start
  have coherent := coherent.run happenings
  refine ⟨?_, ?_, ?_, ?_⟩
  · intro i
    obtain ⟨_, _, course⟩ := coherent.course_of_shown i
    exact course.once
  · intro i before message acts after shows
    obtain ⟨_, _, course⟩ := coherent.course_of_shown i
    exact course.logged_before shows
  · intro i line ack replied decoded success
    obtain ⟨_, _, course⟩ := coherent.course_of_shown i
    exact course.success replied decoded success
  · intro free
    refine ⟨_, coherent.map_entryOf?_appenders, EventLog.kept_suffix _ _,
      EventLog.kept_ne_nil _, ?_⟩
    cases coherent.stored.log with
    | free _ found => exact FileSystem.read_of_find found
    | locked i caller event p e writing _ _ _ =>
      have := unlocked_of_free free _ (List.mem_of_getElem? writing)
      cases this

theorem run_truthful_of_two :
    ∃ started service,
      Relay.start
        { server := { concurrent := true }
          log := { path := ⟨"log"⟩ }
          daemon := { pidFile := ⟨"pid"⟩ } }
        { name := "none", deliver := fun _ _ => { result := .ok none } } ⟨7, fun _ => false⟩
        { files := .empty } = (started, .ok service) ∧
      started.files.read ⟨"log"⟩ = .ok [] ∧
      ∀ a b i, ((Server.run { service, machine := started }
        [.connection a, .connection b, .progress 1, .progress 0, .shutdown, .progress 0, .turn,
          .progress 1]).shown i).countP Effect.isDelivered ≤ 1 := by
  let c : Config :=
    { server := { concurrent := true }
      log := { path := ⟨"log"⟩ }
      daemon := { pidFile := ⟨"pid"⟩ } }
  let opened := FileSystem.empty.put (.child .root "log") (.file [])
  have log := FileSystem.isName_of_plain "log" (by decide)
  have pid := FileSystem.isName_of_plain "pid" (by decide)
  have opens : FileSystem.empty.openForWriting c.log.path = .ok (.child .root "log", none) :=
    log.openForWriting rfl
  have created : EventLog.create c.log .empty = (opened, .ok (.ofConfig c.log)) :=
    EventLog.create_of_opens (FileSystem.makeParent_of_hasParent log.hasParent _) opens
  have vacant : opened.node? (.child .root "pid") = none := by decide
  have start := start_up (c := c) ⟨"none", fun _ _ => { result := .ok none }⟩ ⟨7, fun _ => false⟩
    (m := { files := .empty }) (pid.exists? rfl) created rfl rfl rfl (pid.exists? vacant)
    (FileSystem.makeParent_of_hasParent pid.hasParent _)
    (pid.write vacant _)
  have found : opened.find ⟨"log"⟩ = .ok (.child .root "log", .file []) :=
    FileSystem.find_put_of_openForWriting (log.openForWriting rfl) []
  have file : opened.node? (.child .root "pid") ≠ some .directory := by
    rw [vacant]
    simp
  have empty := FileSystem.read_of_find (FileSystem.find_put_of_ne found (by decide) file
    (.file (.ofString (PidFile.text 7))))
  exact ⟨_, _, start, empty, fun a b i => ((run_truthful start empty _).1 i).2.1⟩

end Server

end EventRelay.Relay
