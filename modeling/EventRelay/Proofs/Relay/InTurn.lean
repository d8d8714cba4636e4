import EventRelay.Proofs.Connection.Steps
import EventRelay.Proofs.EventLog.Opening
import EventRelay.Proofs.Relay.Interleaving
import EventRelay.Proofs.Relay.Loop

/-!
Connections that are served one after another. Main statement: the relay does what its handler does
to one connection after the other, except that the one that a shutdown cuts off shows only a
beginning of it.
-/

namespace EventRelay

structure Served where
  files : FileSystem
  effects : List (Nat × Effect) := []

namespace Handler

def serveNext (h : Handler) (r : Served) (x : Caller × Nat) : Served :=
  let step := h.handle x.1 r.files
  { files := step.files, effects := r.effects ++ step.effects.map fun e => (x.2, e) }

def serveAll (h : Handler) (fs : FileSystem) (callers : List Caller) : Served :=
  callers.zipIdx.foldl h.serveNext { files := fs }

theorem serveAll_concat (h : Handler) (fs : FileSystem) (callers : List Caller) (c : Caller) :
    h.serveAll fs (callers ++ [c]) = h.serveNext (h.serveAll fs callers) (c, callers.length) := by
  simp [serveAll, List.zipIdx_append]

theorem serveAll_logAt {h : Handler} {fs : FileSystem} {l : Location}
    (logAt : h.LogAt l fs .waiting) (callers : List Caller) :
    h.LogAt l (h.serveAll fs callers).files .waiting ∧
      FileSystem.KeepsOthers l fs (h.serveAll fs callers).files := by
  induction callers using List.reverseRecOn with
  | nil => exact ⟨logAt, .refl l fs⟩
  | append_singleton callers c ih =>
    rw [serveAll_concat]
    obtain ⟨next, keeps⟩ := ih.1.serve c 5
    exact ⟨⟨next.log, fun _ _ eq => by cases eq⟩, ih.2.trans keeps⟩

end Handler

namespace Relay

/-- The log and the PID file of a service are two files. -/
def Service.Apart (service : Service) (fs : FileSystem) : Prop :=
  ∃ l k log pid, fs.find service.handler.log.path = .ok (l, .file log) ∧
    fs.find service.pidFile.path = .ok (k, .file pid) ∧ l ≠ k

theorem Slot.isBusy_of_isOver {slot : Slot} (h : slot.isOver = true) : slot.isBusy = false := by
  unfold Slot.isOver at h
  unfold Slot.isBusy
  split at h
  · next eq => rw [eq]
  · cases h

theorem Slot.holdsLock_of_isOver {slot : Slot} (h : slot.isOver = true) :
    slot.stage.holdsLock = false := by
  unfold Slot.isOver at h
  split at h
  · next eq => rw [eq]; rfl
  · cases h

theorem Slot.isBusy_of_kept {slot : Slot} (goesOn : slot.isOver = false)
    (kept : slot.abandoned = false) : slot.isBusy = true := by
  unfold Slot.isOver at goesOn
  unfold Slot.isBusy
  split
  · next eq =>
    rw [eq] at goesOn
    cases goesOn
  · rfl
  · rfl
  · rw [kept]
    rfl

theorem Slot.appending_of_abandoned {slot : Slot} (abandoned : slot.abandoned = true)
    (busy : slot.isBusy = true) :
    (∃ event entry, slot.stage = .logging event entry) ∨ slot.stage.holdsLock = true := by
  unfold Slot.isBusy at busy
  split at busy
  · cases busy
  · next event entry eq => exact .inl ⟨event, entry, eq⟩
  · next event pending eq => exact .inr (by rw [eq]; rfl)
  · rw [abandoned] at busy
    cases busy

namespace Server

variable {first s : Server} {h : Handler} {fs : FileSystem} {old : List Slot} {last : Slot}
  {n : Nat}

/--
Every connection is over. `alike` relates the files of the relay to those that its handler would
leave.
-/
structure Resting (alike : FileSystem → FileSystem → Prop) (h : Handler) (fs : FileSystem)
    (s : Server) : Prop where
  ended : ∀ slot ∈ s.slots, slot.isOver = true
  files : alike s.machine.files (h.serveAll fs s.callers).files
  effects : s.effects = (h.serveAll fs s.callers).effects

/-- Every connection but the last one is over, and that one has taken `n` steps. -/
structure Underway (alike : FileSystem → FileSystem → Prop) (h : Handler) (fs : FileSystem)
    (old : List Slot) (last : Slot) (n : Nat) (s : Server) : Prop where
  slots : s.slots = old ++ [last]
  ended : ∀ slot ∈ old, slot.isOver = true
  stage : last.stage =
    (h.serve last.caller (h.serveAll fs (old.map (·.caller))).files n).stage
  files : alike s.machine.files
    (h.serve last.caller (h.serveAll fs (old.map (·.caller))).files n).files
  effects : s.effects = (h.serveAll fs (old.map (·.caller))).effects ++
    (h.serve last.caller (h.serveAll fs (old.map (·.caller))).files n).effects.map
      fun e => (old.length, e)

variable {alike alike' : FileSystem → FileSystem → Prop}

theorem Underway.callers (u : Underway alike h fs old last n s) :
    s.callers = old.map (·.caller) ++ [last.caller] := by
  rw [Server.callers, u.slots, List.map_append]
  rfl

theorem Underway.resting (u : Underway alike h fs old last n s) (ended : last.isOver = true) :
    Resting alike h fs s := by
  have whole : h.serve last.caller (h.serveAll fs (old.map (·.caller))).files n =
      h.handle last.caller (h.serveAll fs (old.map (·.caller))).files := by
    apply Handler.serve_of_isOver
    rw [← u.stage]
    exact ended
  have served : h.serveAll fs s.callers =
      h.serveNext (h.serveAll fs (old.map (·.caller))) (last.caller, old.length) := by
    rw [u.callers, Handler.serveAll_concat, List.length_map]
  have files := u.files
  have effects := u.effects
  rw [whole] at files effects
  refine ⟨?_, ?_, ?_⟩
  · intro slot mem
    rw [u.slots, List.mem_append, List.mem_singleton] at mem
    rcases mem with old | rfl
    · exact u.ended slot old
    · exact ended
  · rw [served]
    exact files
  · rw [served]
    exact effects

theorem Underway.isLogLocked (u : Underway alike h fs old last n s) :
    s.isLogLocked = last.stage.holdsLock := by
  rw [Server.isLogLocked, u.slots, List.any_append, List.any_cons, List.any_nil, Bool.or_false,
    List.any_eq_false.mpr, Bool.false_or]
  intro slot mem
  rw [Slot.holdsLock_of_isOver (u.ended slot mem)]
  exact Bool.false_ne_true

theorem Underway.getElem? (u : Underway alike h fs old last n s) :
    s.slots[old.length]? = some last := by
  rw [u.slots, List.getElem?_append_right (Nat.le_refl _), Nat.sub_self]
  rfl

theorem Underway.advance_other (u : Underway alike h fs old last n s) {i : Nat}
    (other : i ≠ old.length) : s.advance i = s := by
  apply advance_of_rest
  intro slot found
  rw [u.slots, List.getElem?_append] at found
  split at found
  · exact Slot.isBusy_of_isOver (u.ended slot (List.mem_of_getElem? found))
  · next outside =>
    rw [List.getElem?_singleton, if_neg (by omega)] at found
    cases found

theorem Underway.isReady (u : Underway alike h fs old last n s) (busy : last.isBusy = true) :
    s.isReady last = true := by
  rw [Server.isReady, busy, Bool.true_and]
  split
  · next logging =>
    rw [u.isLogLocked, logging]
    rfl
  · rfl

theorem Underway.advance (u : Underway alike h fs old last n s)
    (service : s.service.handler = h) (busy : last.isBusy = true)
    (agree : ∀ files, alike s.machine.files files →
      (h.step last.caller s.machine.files last.stage).stage =
        (h.step last.caller files last.stage).stage ∧
      (h.step last.caller s.machine.files last.stage).effects =
        (h.step last.caller files last.stage).effects ∧
      alike (h.step last.caller s.machine.files last.stage).files
        (h.step last.caller files last.stage).files) :
    Underway alike h fs old
      { last with stage := (h.step last.caller s.machine.files last.stage).stage } (n + 1)
      (s.advance old.length) := by
  obtain ⟨stage, effects, files⟩ := agree _ u.files
  rw [advance_of_ready u.getElem? (u.isReady busy)]
  constructor
  · simp only
    rw [u.slots, List.set_append_right _ _ (Nat.le_refl _), Nat.sub_self, service]
    rfl
  · exact u.ended
  · rw [Handler.serve_succ, ← u.stage]
    exact stage
  · rw [Handler.serve_succ, ← u.stage]
    simp only [service]
    exact files
  · rw [Handler.serve_succ, ← u.stage]
    simp only [service]
    rw [effects, u.effects, List.map_append, List.append_assoc]

inductive InTurn (alike : FileSystem → FileSystem → Prop) (h : Handler) (fs : FileSystem)
    (s : Server) : Prop
  | resting (resting : Resting alike h fs s) (idle : ∀ i, s.phase ≠ .serving i)
  | serving (old : List Slot) (last : Slot) (n : Nat) (underway : Underway alike h fs old last n s)
    (phase : s.phase = .serving old.length) (goesOn : last.isOver = false)
    (kept : last.abandoned = false)
  | left (old : List Slot) (last : Slot) (n : Nat) (underway : Underway alike h fs old last n s)
    (phase : s.phase.isLeft = true) (abandoned : last.abandoned = true)

theorem Resting.congr {s' : Server} (r : Resting alike h fs s) (slots : s'.slots = s.slots)
    (files : ∀ f, alike s.machine.files f → alike' s'.machine.files f)
    (effects : s'.effects = s.effects) : Resting alike' h fs s' := by
  have callers : s'.callers = s.callers := by rw [Server.callers, slots, Server.callers]
  exact ⟨slots ▸ r.ended, by rw [callers]; exact files _ r.files,
    by rw [effects, callers]; exact r.effects⟩

theorem Underway.congr {s' : Server} (u : Underway alike h fs old last n s)
    (slots : s'.slots = s.slots) (files : ∀ f, alike s.machine.files f → alike' s'.machine.files f)
    (effects : s'.effects = s.effects) : Underway alike' h fs old last n s' :=
  ⟨slots.trans u.slots, u.ended, u.stage, files _ u.files, effects.trans u.effects⟩

theorem Resting.leave (r : Resting alike h fs s) : Resting alike h fs s.leave := by
  refine ⟨?_, ?_, ?_⟩
  · intro slot mem
    obtain ⟨before, inside, rfl⟩ := List.mem_map.mp mem
    exact r.ended before inside
  · rw [callers_leave]
    exact r.files
  · rw [callers_leave]
    exact r.effects

theorem Underway.leave (u : Underway alike h fs old last n s) :
    Underway alike h fs (old.map fun slot => { slot with abandoned := true })
      { last with abandoned := true } n s.leave := by
  have callers : (old.map fun slot => { slot with abandoned := true }).map (·.caller) =
      old.map (·.caller) := by
    rw [List.map_map]
    rfl
  constructor
  · simp [Server.leave, sign, u.slots]
  · intro slot mem
    obtain ⟨before, inside, rfl⟩ := List.mem_map.mp mem
    exact u.ended before inside
  · rw [callers]
    exact u.stage
  · rw [callers]
    exact u.files
  · rw [callers, List.length_map]
    exact u.effects

theorem InTurn.leave (inTurn : InTurn alike h fs s) (running : s.phase.isLeft = false) :
    InTurn alike h fs s.leave := by
  cases inTurn with
  | resting r idle => exact .resting r.leave fun _ eq => by cases eq
  | serving old last n u phase goesOn kept => exact .left _ _ n u.leave rfl rfl
  | left old last n u phase abandoned =>
    rw [phase] at running
    cases running

theorem InTurn.accept (r : Resting Eq h fs s) (serial : s.service.concurrent = false)
    (c : Caller) : InTurn Eq h fs (s.accept c) := by
  have accepted : s.accept c = sign { sign { s with slots := s.slots ++ [{ caller := c }] }
      (.accepted s.slots.length) with phase := .serving s.slots.length } (.state .handling) := by
    rw [Server.accept]
    simp only [sign, serial]
    rfl
  rw [accepted]
  refine .serving s.slots { caller := c } 0 ⟨rfl, r.ended, rfl, r.files, ?_⟩ rfl rfl rfl
  rw [Handler.serve_zero, List.map_nil, List.append_nil]
  exact r.effects

/-- Whatever is alike before a step is alike after it, and nothing else tells the two apart. -/
def Agrees (alike : FileSystem → FileSystem → Prop) (h : Handler) (c : Caller) (fs : FileSystem)
    (stage : Stage) : Prop :=
  ∀ files, alike fs files →
    (h.step c fs stage).stage = (h.step c files stage).stage ∧
    (h.step c fs stage).effects = (h.step c files stage).effects ∧
    alike (h.step c fs stage).files (h.step c files stage).files

theorem agrees_eq (c : Caller) (stage : Stage) : Agrees Eq h c fs stage := by
  rintro _ rfl
  exact ⟨rfl, rfl, rfl⟩

theorem Resting.advance (r : Resting alike h fs s) (i : Nat) : s.advance i = s :=
  advance_of_rest fun slot found =>
    Slot.isBusy_of_isOver (r.ended slot (List.mem_of_getElem? found))

theorem InTurn.advance_left (u : Underway alike h fs old last n s) (phase : s.phase.isLeft = true)
    (abandoned : last.abandoned = true) (service : s.service.handler = h) (i : Nat)
    (agree : last.isBusy = true → Agrees alike h last.caller s.machine.files last.stage) :
    InTurn alike h fs (s.advance i).settle := by
  rw [settle_of_idle]
  · by_cases own : i = old.length
    · subst own
      cases busy : last.isBusy with
      | true =>
        refine .left _ _ _ (u.advance service busy (agree busy)) ?_ abandoned
        rw [phase_advance]
        exact phase
      | false =>
        rw [advance_of_rest fun slot found => by
          rw [u.getElem?] at found
          cases found
          exact busy]
        exact .left old last n u phase abandoned
    · rw [u.advance_other own]
      exact .left old last n u phase abandoned
  · intro j serving
    rw [phase_advance] at serving
    rw [serving] at phase
    cases phase

theorem Underway.progress (u : Underway Eq h fs old last n s)
    (phase : s.phase = .serving old.length) (goesOn : last.isOver = false)
    (kept : last.abandoned = false) (service : s.service.handler = h) :
    (Resting Eq h fs (s.advance old.length).settle ∧
      (s.advance old.length).settle.phase = .selecting) ∨
    ∃ last', Underway Eq h fs old last' (n + 1) (s.advance old.length).settle ∧
      (s.advance old.length).settle.phase = .serving old.length ∧ last'.isOver = false ∧
      last'.abandoned = false := by
  have u' := u.advance service (Slot.isBusy_of_kept goesOn kept) (agrees_eq _ _)
  have phase' := (s.phase_advance old.length).trans phase
  rw [settle_of_serving phase' u'.getElem?]
  split
  · next ended => exact .inl ⟨(u'.resting ended).congr rfl (fun _ same => same) rfl, rfl⟩
  · next goesOn' => exact .inr ⟨_, u', phase', Bool.eq_false_iff.mpr goesOn', kept⟩

theorem InTurn.advance_serving (u : Underway Eq h fs old last n s)
    (phase : s.phase = .serving old.length) (goesOn : last.isOver = false)
    (kept : last.abandoned = false) (service : s.service.handler = h) (i : Nat) :
    InTurn Eq h fs (s.advance i).settle := by
  by_cases own : i = old.length
  · subst own
    rcases u.progress phase goesOn kept service with
      ⟨r, selecting⟩ | ⟨last', u', serving, goesOn', kept'⟩
    · exact .resting r fun _ eq => by rw [selecting] at eq; cases eq
    · exact .serving old last' (n + 1) u' serving goesOn' kept'
  · rw [u.advance_other own, settle_of_serving phase u.getElem?, goesOn]
    exact .serving old last n u phase goesOn kept

theorem InTurn.progress (inTurn : InTurn Eq h fs s) (service : s.service.handler = h) (i : Nat) :
    InTurn Eq h fs (s.advance i).settle := by
  cases inTurn with
  | resting r idle =>
    rw [r.advance, settle_of_idle idle]
    exact .resting r idle
  | serving old last n u phase goesOn kept =>
    exact InTurn.advance_serving u phase goesOn kept service i
  | left old last n u phase abandoned =>
    exact InTurn.advance_left u phase abandoned service i fun _ => agrees_eq _ _

theorem InTurn.congr {s' : Server} (inTurn : InTurn alike h fs s)
    (slots : s'.slots = s.slots) (files : ∀ f, alike s.machine.files f → alike' s'.machine.files f)
    (effects : s'.effects = s.effects) (idle : ∀ i, s'.phase ≠ .serving i)
    (idle' : ∀ i, s.phase ≠ .serving i)
    (left : s.phase.isLeft = true → s'.phase.isLeft = true) : InTurn alike' h fs s' := by
  cases inTurn with
  | resting r _ => exact .resting (r.congr slots files effects) idle
  | serving old last n u phase _ _ => exact absurd phase (idle' _)
  | left old last n u phase abandoned =>
    exact .left old last n (u.congr slots files effects) (left phase) abandoned

theorem InTurn.resting_of_selecting (inTurn : InTurn alike h fs s)
    (selecting : s.phase = .selecting) : Resting alike h fs s := by
  cases inTurn with
  | resting r _ => exact r
  | serving old last n u phase _ _ =>
    rw [selecting] at phase
    cases phase
  | left old last n u phase _ =>
    rw [selecting] at phase
    cases phase

theorem InTurn.next (inTurn : InTurn Eq h fs s) (service : s.service.handler = h)
    (serial : s.service.concurrent = false) (happening : Happening)
    (running : (s.next happening).phase ≠ .stopped) : InTurn Eq h fs (s.next happening) := by
  cases happening with
  | shutdown =>
    cases inTurn with
    | resting r idle => exact .resting (r.congr rfl (fun _ same => same) rfl) idle
    | serving old last n u phase goesOn kept =>
      exact .serving old last n (u.congr rfl (fun _ same => same) rfl) phase goesOn kept
    | left old last n u phase abandoned =>
      exact .left old last n (u.congr rfl (fun _ same => same) rfl) phase abandoned
  | connection c =>
    rw [Server.next]
    split
    · next selecting =>
      split
      · exact inTurn.leave (by rw [selecting]; rfl)
      · exact InTurn.accept (inTurn.resting_of_selecting selecting) serial c
    · exact inTurn
  | acceptFailure =>
    rw [Server.next]
    split
    · next selecting =>
      split
      · exact inTurn.leave (by rw [selecting]; rfl)
      · exact inTurn.congr rfl (fun _ same => same) rfl (fun _ eq => by cases eq)
          (fun _ eq => by rw [selecting] at eq; cases eq) (by rw [selecting]; exact id)
    · exact inTurn
  | progress i =>
    rw [Server.next]
    split
    · next driven =>
      refine inTurn.leave ?_
      have serving := driven.2
      rw [isDrivenByLoop, Bool.and_eq_true, beq_iff_eq] at serving
      rw [serving.1]
      rfl
    · exact inTurn.progress service i
  | turn =>
    rw [Server.next] at running ⊢
    split
    · next selecting =>
      split
      · exact inTurn.leave (by rw [selecting]; rfl)
      · exact inTurn
    · next i serving =>
      split
      · exact inTurn.leave (by rw [serving]; rfl)
      · exact inTurn
    · next pausing =>
      exact inTurn.congr rfl (fun _ same => same) rfl (fun _ eq => by cases eq)
        (fun _ eq => by rw [pausing] at eq; cases eq) (by rw [pausing]; exact id)
    · next closing =>
      exact inTurn.congr rfl (fun _ same => same) rfl (fun _ eq => by cases eq)
        (fun _ eq => by rw [closing] at eq; cases eq) fun _ => rfl
    · next releasing =>
      rw [releasing] at running
      exact absurd rfl running
    · exact inTurn

theorem inTurn_run {service : Service} (serial : service.concurrent = false) (machine : Machine)
    (happenings : List Happening)
    (running : (run { service, machine } happenings).phase ≠ .stopped) :
    InTurn Eq service.handler machine.files (run { service, machine } happenings) := by
  induction happenings using List.reverseRecOn with
  | nil => exact .resting ⟨fun _ mem => (by cases mem), rfl, rfl⟩ fun _ eq => by cases eq
  | append_singleton happenings happening ih =>
    rw [run_concat] at running ⊢
    have service' := run_service { service, machine } happenings
    refine (ih fun stopped => running ?_).next (by rw [service']) (by rw [service']; exact serial)
      happening running
    exact (next_move _ happening).stays stopped

theorem InTurn.logAt {l : Location} (inTurn : InTurn Eq h fs s) (logAt : h.LogAt l fs .waiting) :
    (∃ content, s.machine.files.find h.log.path = .ok (l, .file content)) ∧
      FileSystem.KeepsOthers l fs s.machine.files := by
  cases inTurn with
  | resting r _ =>
    obtain ⟨at', keeps⟩ := Handler.serveAll_logAt logAt s.callers
    rw [r.files]
    exact ⟨at'.log, keeps⟩
  | serving old last n u _ _ _ | left old last n u _ _ =>
    obtain ⟨at', keeps⟩ := Handler.serveAll_logAt logAt (old.map (·.caller))
    obtain ⟨next, keeps'⟩ := at'.serve last.caller n
    rw [u.files]
    exact ⟨next.log, keeps.trans keeps'⟩

/-- What is left of an append may come after the PID file has been given back. -/
theorem InTurn.next_stopped {l : Location} (inTurn : InTurn (h.log.Alike l) h fs s)
    (logAt : h.LogAt l fs .waiting) (service : s.service.handler = h) (stopped : s.phase = .stopped)
    (happening : Happening) : InTurn (h.log.Alike l) h fs (s.next happening) := by
  have idle : ∀ i, s.phase ≠ .serving i := fun i eq => by rw [stopped] at eq; cases eq
  cases happening with
  | shutdown => exact inTurn.congr rfl (fun _ same => same) rfl idle idle id
  | connection c =>
    rw [Server.next, stopped]
    exact inTurn
  | acceptFailure =>
    rw [Server.next, stopped]
    exact inTurn
  | turn =>
    rw [Server.next, stopped]
    exact inTurn
  | progress i =>
    have free : s.isDrivenByLoop i = false := by rw [isDrivenByLoop, stopped]; rfl
    rw [Server.next, if_neg (by rw [free]; simp)]
    cases inTurn with
    | resting r _ =>
      rw [r.advance, settle_of_idle idle]
      exact .resting r idle
    | serving old last n u phase _ _ => exact absurd phase (idle _)
    | left old last n u phase abandoned =>
      refine InTurn.advance_left u phase abandoned service i fun busy files alike => ?_
      obtain ⟨at', -⟩ := Handler.serveAll_logAt logAt (old.map (·.caller))
      refine Handler.step_alike alike (fun event p writing => ?_)
        (Slot.appending_of_abandoned abandoned busy)
      rw [u.stage] at writing
      exact (at'.serve last.caller n).1.pending event p writing

theorem InTurn.release {l k : Location} {pid : Bytes} (inTurn : InTurn Eq h fs s)
    (releasing : s.phase = .releasing) (logAt : h.LogAt l fs .waiting)
    (found : fs.find s.service.pidFile.path = .ok (k, .file pid)) (apart : l ≠ k) :
    InTurn (h.log.Alike l) h fs (s.next .turn) := by
  obtain ⟨⟨content, log⟩, keeps⟩ := inTurn.logAt logAt
  have pidFile := keeps _ _ _ apart.symm found
  have alike : h.log.Alike l (s.service.pidFile.release s.machine.files).1 s.machine.files := by
    rcases s.service.pidFile.release_files s.machine.files with same | ⟨k', _, at', erased⟩
    · rw [same]
      exact ⟨content, log, log⟩
    · rw [pidFile] at at'
      cases at'
      rw [erased]
      exact ⟨content, FileSystem.find_erase_of_ne log apart
        (FileSystem.not_directory_of_find pidFile), log⟩
  rw [Server.next, releasing]
  exact inTurn.congr rfl (fun f same => same ▸ alike) rfl (fun _ eq => by cases eq)
    (fun _ eq => by rw [releasing] at eq; cases eq) fun _ => rfl

theorem inTurn_stopped {service : Service} (serial : service.concurrent = false)
    {machine : Machine} (apart : service.Apart machine.files) {happenings : List Happening}
    (stopped : (run { service, machine } happenings).phase = .stopped) :
    ∃ l, InTurn (service.handler.log.Alike l) service.handler machine.files
      (run { service, machine } happenings) := by
  obtain ⟨l, k, log, pid, logFound, pidFound, ne⟩ := apart
  have logAt : service.handler.LogAt l machine.files .waiting :=
    ⟨⟨log, logFound⟩, fun _ _ eq => by cases eq⟩
  obtain ⟨earlier, later, rfl, releasing⟩ := exists_release (by simp) stopped
  have service' := run_service { service, machine } earlier
  have before := inTurn_run serial machine earlier (by rw [releasing]; simp)
  have released := before.release releasing logAt (by rw [service']; exact pidFound) ne
  refine ⟨l, ?_⟩
  rw [run_append, run_cons]
  -- From here on the relay stays stopped.
  have phase : ((run { service, machine } earlier).next .turn).phase = .stopped := by
    rw [Server.next, releasing]
    rfl
  have handler : ((run { service, machine } earlier).next .turn).service.handler =
      service.handler := by rw [next_service, service']
  generalize (run { service, machine } earlier).next .turn = s at released phase handler
  clear stopped
  induction later generalizing s with
  | nil => exact released
  | cons happening later ih =>
    exact ih _ (released.next_stopped logAt handler phase happening)
      ((s.next_move happening).stays phase) (by rw [next_service, handler])

/--
A relay has served `done` to their ends, one after another, and has taken in `cut` behind them,
which has shown `own` by now.
-/
structure Accounts (h : Handler) (fs : FileSystem) (s : Server) (done cut : List Caller)
    (own : List Effect) : Prop where
  callers : s.callers = done ++ cut
  /-- Only one connection can be short of its end, and only while it is served or if a shutdown has
  cut it off. -/
  single : cut.length ≤ 1
  cause : cut ≠ [] → s.phase = .serving done.length ∨ s.shutdownPending = true
  none : cut = [] → own = []
  effects : s.effects = (h.serveAll fs done).effects ++ own.map fun e => (done.length, e)
  /-- What it shows is a beginning of what it would show in the end. -/
  beginning : s.effects <+: (h.serveAll fs s.callers).effects
  shape : own = [] ∨ (∃ r, own = [.logged r]) ∨
    (∃ r message acts, own = [.logged r, .delivered message acts]) ∨
    s.effects = (h.serveAll fs s.callers).effects
  /-- Unless an entry is just being written, the log has it or has never seen it. -/
  log : s.isLogLocked = false → s.machine.files.read h.log.path =
    (h.serveAll fs (if own.isEmpty then done else s.callers)).files.read h.log.path
  files : s.phase ≠ .stopped → s.isLogLocked = false →
    s.machine.files = (h.serveAll fs (if own.isEmpty then done else s.callers)).files

theorem Resting.accounts (r : Resting alike h fs s)
    (log : ∀ f, alike s.machine.files f → s.machine.files.read h.log.path = f.read h.log.path)
    (files : s.phase ≠ .stopped → ∀ f, alike s.machine.files f → s.machine.files = f) :
    Accounts h fs s s.callers [] [] where
  callers := (List.append_nil _).symm
  single := Nat.zero_le 1
  cause := fun ne => absurd rfl ne
  none := fun _ => rfl
  effects := by rw [r.effects]; simp
  beginning := r.effects ▸ List.prefix_refl _
  shape := .inl rfl
  log := fun _ => log _ r.files
  files := fun running _ => files running _ r.files

theorem Underway.accounts (u : Underway alike h fs old last n s)
    (cause : s.phase = .serving old.length ∨ s.shutdownPending = true)
    (log : ∀ f, alike s.machine.files f → s.machine.files.read h.log.path = f.read h.log.path)
    (files : s.phase ≠ .stopped → ∀ f, alike s.machine.files f → s.machine.files = f) :
    Accounts h fs s (old.map (·.caller)) [last.caller]
      (h.serve last.caller (h.serveAll fs (old.map (·.caller))).files n).effects := by
  let before := h.serveAll fs (old.map (·.caller))
  have served : h.serveAll fs s.callers = h.serveNext before (last.caller, old.length) := by
    rw [u.callers, Handler.serveAll_concat, List.length_map]
  -- Without the lock there are only the files from before and those in the end.
  have stored : s.isLogLocked = false → (h.serve last.caller before.files n).files =
      (h.serveAll fs (if (h.serve last.caller before.files n).effects.isEmpty then
        old.map (·.caller) else s.callers)).files := by
    intro free
    rw [u.isLogLocked, u.stage] at free
    split
    · next nothing =>
      exact Handler.files_serve_of_nothing n (List.isEmpty_iff.mp nothing) free
    · next something =>
      rw [served]
      exact Handler.files_serve_of_shown fun nothing => something (List.isEmpty_iff.mpr nothing)
  constructor
  · exact u.callers
  · exact Nat.le_refl 1
  · rw [List.length_map]
    exact fun _ => cause
  · exact fun eq => by cases eq
  · rw [List.length_map]
    exact u.effects
  · rw [u.effects, served]
    exact (List.prefix_append_right_inj _).mpr ((Handler.effects_serve_prefix n).map _)
  · have shown : (h.serve last.caller before.files n).effects = [] ∨ _ := Handler.effects_serve n
    rcases shown with nothing | logged | delivered | whole
    · exact .inl nothing
    · exact .inr (.inl logged)
    · exact .inr (.inr (.inl delivered))
    · refine .inr (.inr (.inr ?_))
      rw [u.effects, served]
      change _ ++ List.map _ (h.serve last.caller before.files n).effects = _
      rw [whole]
      rfl
  · intro free
    rw [← stored free]
    exact log _ u.files
  · intro running free
    rw [← stored free]
    exact files running _ u.files

theorem InTurn.accounts (inTurn : InTurn alike h fs s)
    (pending : s.phase.isLeft = true → s.shutdownPending = true)
    (log : ∀ f, alike s.machine.files f → s.machine.files.read h.log.path = f.read h.log.path)
    (files : s.phase ≠ .stopped → ∀ f, alike s.machine.files f → s.machine.files = f) :
    ∃ done cut own, Accounts h fs s done cut own := by
  cases inTurn with
  | resting r _ => exact ⟨_, _, _, r.accounts log files⟩
  | serving old last n u phase _ _ => exact ⟨_, _, _, u.accounts (.inl phase) log files⟩
  | left old last n u phase _ => exact ⟨_, _, _, u.accounts (.inr (pending phase)) log files⟩

theorem accounts_of_running {service : Service} (serial : service.concurrent = false)
    (machine : Machine) {happenings : List Happening}
    (running : (run { service, machine } happenings).phase ≠ .stopped) :
    ∃ done cut own, Accounts service.handler machine.files (run { service, machine } happenings)
      done cut own := by
  refine (inTurn_run serial machine happenings running).accounts ?_ ?_ fun _ _ same => same
  · exact pending_of_isLeft
  · rintro _ rfl
    rfl

theorem accounts_of_stopped {service : Service} (serial : service.concurrent = false)
    {machine : Machine} (apart : service.Apart machine.files) {happenings : List Happening}
    (stopped : (run { service, machine } happenings).phase = .stopped) :
    ∃ done cut own, Accounts service.handler machine.files (run { service, machine } happenings)
      done cut own := by
  obtain ⟨l, inTurn⟩ := inTurn_stopped serial apart stopped
  refine inTurn.accounts ?_ (fun _ alike => alike.read) fun running => absurd stopped running
  exact pending_of_isLeft

/--
A relay that serves one connection after the other, with failed accepts in between and a shutdown
at any moment, does what its handler does to the callers in the order in which they were accepted.
Only the one that a shutdown cuts off comes short of it: it has shown nothing, its append, its
append and its delivery, or all, and nobody is served behind it. So it is as long as the PID file is
held, by the end of which all callers have come; and also later, if giving it back does not take
the log away. No caller is passed over while the loop waits for one.
-/
theorem run_in_turn {service : Service} (serial : service.concurrent = false) (machine : Machine)
    (happenings : List Happening) :
    let first : Server := { service, machine }
    let s := first.run happenings
    (∃ held later, happenings = held ++ later ∧ (s.phase ≠ .stopped → later = []) ∧
      s.callers = (first.run held).callers ∧
      ∃ done cut own, Accounts service.handler machine.files (first.run held) done cut own) ∧
    (service.Apart machine.files →
      ∃ done cut own, Accounts service.handler machine.files s done cut own) ∧
    s.callers.Sublist (happenings.filterMap Happening.caller?) ∧
    ∀ earlier c later, happenings = earlier ++ .connection c :: later →
      (first.run earlier).phase = .selecting → .shutdown ∉ earlier →
      (first.run (earlier ++ [.connection c])).callers = (first.run earlier).callers ++ [c] := by
  intro first s
  refine ⟨?_, ?_, ?_, ?_⟩
  · by_cases stopped : s.phase = .stopped
    · obtain ⟨earlier, later, rfl, releasing⟩ := exists_release (by simp) stopped
      have pending : (first.run earlier).shutdownPending = true :=
        pending_of_isLeft (by rw [releasing]; rfl)
      refine ⟨earlier, .turn :: later, rfl, fun running => absurd stopped running, ?_,
        accounts_of_running serial machine (by rw [releasing]; simp)⟩
      rw [show s = first.run _ from rfl, run_append, callers_run_of_pending pending]
    · exact ⟨happenings, [], (List.append_nil _).symm, fun _ => rfl, rfl,
        accounts_of_running serial machine stopped⟩
  · intro apart
    by_cases stopped : s.phase = .stopped
    · exact accounts_of_stopped serial apart stopped
    · exact accounts_of_running serial machine stopped
  · obtain ⟨taken, callers, sublist⟩ := callers_run first happenings
    rw [show s.callers = taken from callers]
    exact sublist
  · rintro earlier c later rfl selecting quiet
    have free : (first.run earlier).shutdownPending = false := free_run rfl quiet
    rw [run_concat, next_connection selecting free, callers_accept]

theorem run_in_turn_of_cut :
    ∃ (service : Service) (machine : Machine), service.concurrent = false ∧
      service.Apart machine.files ∧ ∀ a b, ∃ done cut own,
        Accounts service.handler machine.files
          (run { service, machine }
            [.connection a, .acceptFailure, .progress 0, .progress 0, .shutdown, .turn, .turn,
              .turn, .progress 0, .connection b])
          done cut own := by
  let sink : Sink := { name := "none", deliver := fun _ _ => { result := .ok none } }
  let service := Service.ofConfig
    { log := { path := ⟨"log"⟩ }
      daemon := { pidFile := ⟨"pid"⟩ } } sink ⟨7, fun _ => false⟩
  let opened := FileSystem.empty.put (.child .root "log") (.file [])
  let files := opened.put (.child .root "pid") (.file (.ofString (PidFile.text 7)))
  have log := FileSystem.isName_of_plain "log" (by decide)
  have pid := FileSystem.isName_of_plain "pid" (by decide)
  have vacant : opened.node? (.child .root "pid") = none := by decide
  have found : opened.find ⟨"log"⟩ = .ok (.child .root "log", .file []) :=
    FileSystem.find_put_of_openForWriting (log.openForWriting rfl) []
  have apart : service.Apart files :=
    ⟨.child .root "log", .child .root "pid", _, _,
      FileSystem.find_put_of_ne found (by decide) (by rw [vacant]; simp) _,
      FileSystem.find_put_of_openForWriting (pid.openForWriting vacant) _,
      by decide⟩
  have serial : service.concurrent = false := rfl
  exact ⟨service, { files }, serial, apart, fun a b =>
    (run_in_turn serial { files } _).2.1 apart⟩

end Server

end Relay

end EventRelay
