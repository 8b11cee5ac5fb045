import Playbook.Proofs.Run.Precedence

/-!
What a cancelled run still does. Each of its jobs ends as soon as it is polled, and does nothing
before: so the course of the run does not depend any more on what handlers would do, and no event of
theirs is recorded. A job that has not been polled yet records the start of its attempt all the same,
so each of these jobs may still record one start, and a job that the scan in progress starts.
-/
namespace Playbook

open Json (Value)
open Trace (EventKind)

namespace Job

/-- What a job of a cancelled run ends with when it is polled. -/
def lastResult (p : Plan) (now : Nat) (j : Job) : StepResult :=
  match j.phase with
  | .starting => j.broken (if p.isPastDeadline now then .deadline else .cancelled) now now
  | .working w => j.broken .cancelled w.startedAt now
  | .backingOff _ last => last

/-- What it records then: its start, if it had not been polled before. -/
def lastEntries (p : Plan) (now : Nat) (j : Job) : List LogEntry :=
  match j.phase with
  | .starting => if p.isPastDeadline now then [] else [j.entry now .stepStarted]
  | _ => []

/-- No attempt follows another one in a cancelled run. -/
theorem conclude_cancelled (p : Plan) (now turn left : Nat) (j : Job) (r : StepResult) :
    conclude p now turn true left j r = ([], .ended (.finished r j.superseded)) := by
  cases left with
  | zero => rfl
  | succ left => simp [conclude, mayRetry]

/-- A job of a cancelled run ends when it is polled. -/
theorem poll_cancelled (p : Plan) (now turn : Nat) (j : Job) :
    j.poll p now turn true =
      (j.lastEntries p now, .ended (.finished (j.lastResult p now) j.superseded)) := by
  unfold poll lastEntries lastResult
  cases j.phase with
  | starting =>
    unfold start
    cases p.isPastDeadline now <;> simp [settle, conclude_cancelled]
  | working w => simp [settle, conclude_cancelled]
  | backingOff wake last => rfl

end Job

/-! ### What handlers would do is of no account -/

/-- Another behaviour of all handlers: how an attempt goes on from where it is, and what an attempt
does that begins. -/
structure Conduct where
  goOn : Activity EventKind StepResult → Activity EventKind StepResult
  attempt : List (String × Value) → Step → Nat → Activity EventKind StepResult

namespace Conduct

variable (c : Conduct) {p : Plan} {s t : RunState}

def plan (p : Plan) : Plan := { p with attempt := c.attempt }

def phase : JobPhase → JobPhase
  | .working w => .working { w with rest := c.goOn w.rest }
  | phase => phase

def job (j : Job) : Job := { j with phase := c.phase j.phase }

/-- The state in which the attempts that are going on would go on otherwise. -/
def state (s : RunState) : RunState := { s with jobs := s.jobs.map c.job }

@[simp] theorem inFlight_state (s : RunState) : (c.state s).inFlight = s.inFlight := by
  simp [state, RunState.inFlight]

theorem launch_state (s : RunState) (step : Step) :
    (c.state s).launch (c.plan p) step = c.state (s.launch p step) := by
  unfold RunState.launch state
  rw [List.map_append]
  rfl

theorem visit_state (s : RunState) (id : String) :
    (c.state s).visit (c.plan p) id = (c.state (s.visit p id).1, (s.visit p id).2) := by
  have ready : (c.state s).readiness (c.plan p) id = s.readiness p id := rfl
  have pending : (c.state s).pending = s.pending := rfl
  have limit : (c.plan p).limit = p.limit := rfl
  have late : (c.plan p).isPastDeadline (c.state s).now = p.isPastDeadline s.now := rfl
  have found : (c.plan p).program.step? id = p.program.step? id := rfl
  unfold RunState.visit
  rw [ready, pending, c.inFlight_state, limit, late, found]
  split
  · rfl
  · cases s.readiness p id with
    | waiting => rfl
    | skip branch reason => rfl
    | ready =>
      simp only
      split
      · rfl
      · split
        · rfl
        · cases p.program.step? id with
          | none => rfl
          | some step => exact Prod.ext (c.launch_state s step) rfl

theorem takeIn_state (s : RunState) (e : EndedJob) (rest : List EndedJob) :
    (c.state s).takeIn e rest = c.state (s.takeIn e rest) := by
  obtain ⟨id, outcome⟩ := e
  cases outcome <;> rfl

theorem leave_state (s : RunState) : (c.state s).leave (c.plan p) = c.state (s.leave p) := by
  have cancelled : (c.state s).cancelled = s.cancelled := rfl
  have pending : (c.state s).pending = s.pending := rfl
  unfold RunState.leave
  rw [cancelled, pending, c.inFlight_state]
  split <;> rfl

theorem skips_state (ids : List String) (branch reason : String) (s : RunState) :
    ids.foldl (fun s id => s.skip id branch reason) (c.state s) =
      c.state (ids.foldl (fun s id => s.skip id branch reason) s) := by
  induction ids generalizing s with
  | nil => rfl
  | cons id rest ih => exact ih (s.skip id branch reason)

theorem finishDraining_state (s : RunState) :
    (c.state s).finishDraining (c.plan p) = c.state (s.finishDraining p) := by
  unfold RunState.finishDraining
  exact congrArg (RunState.close (c.plan p) · true) (c.skips_state ..)

/-- The loop does the same whatever handlers would do. -/
theorem act?_state (s : RunState) : (c.state s).act? (c.plan p) = (s.act? p).map c.state := by
  have control : (c.state s).control = s.control := rfl
  have cancelled : (c.state s).cancelled = s.cancelled := rfl
  have ended : (c.state s).ended = s.ended := rfl
  have jobs : (c.state s).jobs.isEmpty = s.jobs.isEmpty := by simp [state]
  unfold RunState.act?
  rw [control, cancelled, ended, jobs, c.inFlight_state]
  cases s.control with
  | looking => rfl
  | scanning rest progressed =>
    cases rest with
    | nil => rfl
    | cons id rest =>
      simp only [visit_state]
      rfl
  | choosing progressed =>
    simp only
    split
    · split
      · rfl
      · exact congrArg some (c.leave_state s)
    · split
      · exact congrArg some (c.leave_state s)
      · cases s.ended with
        | nil => rfl
        | cons e rest =>
          simp only [takeIn_state]
          rfl
  | draining =>
    cases s.ended with
    | nil =>
      simp only
      split
      · exact congrArg some (c.finishDraining_state s)
      · rfl
    | cons e rest => exact congrArg some (c.takeIn_state s e rest)
  | _ => rfl

/-- What jobs of a cancelled run end with does not depend on what they would do. -/
theorem last_job (now : Nat) (j : Job) :
    (c.job j).lastEntries (c.plan p) now = j.lastEntries p now ∧
      (c.job j).lastResult (c.plan p) now = j.lastResult p now ∧
      (c.job j).isReady now true = j.isReady now true := by
  obtain ⟨step, «variables», attempt, retriesLeft, backoffMs, superseded, phase⟩ := j
  cases phase <;> exact ⟨rfl, rfl, rfl⟩

theorem poll?_state (cut : s.cancelled = true) (turn : Nat) (id : String) :
    (c.state s).poll? (c.plan p) turn id = (s.poll? p turn id).map c.state := by
  have cancelled : (c.state s).cancelled = true := cut
  have found : (c.state s).jobs.find? (RunState.isJobOf id) =
      (s.jobs.find? (RunState.isJobOf id)).map c.job := List.find?_map ..
  unfold RunState.poll?
  rw [found, cancelled, cut]
  cases s.jobs.find? (RunState.isJobOf id) with
  | none => rfl
  | some j =>
    obtain ⟨entries, result, ready⟩ := c.last_job (p := p) s.now j
    have now : (c.state s).now = s.now := rfl
    simp only [Option.map_some, Job.poll_cancelled, now, ready, entries, result]
    split
    · have removed : First.remove (RunState.isJobOf id) (c.state s).jobs =
          (First.remove (RunState.isJobOf id) s.jobs).map c.job := First.remove_map ..
      rw [removed]
      rfl
    · rfl

/-- Each move of a cancelled run is one that it makes whatever handlers would do. -/
theorem move (cut : s.cancelled = true) (m : Move .free p s t) :
    Move .free (c.plan p) (c.state s) (c.state t) := by
  cases m with
  | act m => exact .act ((c.act?_state s).trans (congrArg (Option.map c.state) m))
  | poll m => exact .poll ((c.poll?_state cut ..).trans (congrArg (Option.map c.state) m))
  | cancel => exact .cancel trivial
  | elapse => exact .elapse trivial

/-- From a cancellation on the course of a run does not depend on what handlers would do. -/
theorem reaches (cut : s.cancelled = true) (h : Reaches .free p s t) :
    Reaches .free (c.plan p) (c.state s) (c.state t) := by
  induction h with
  | refl => exact .refl
  | tail h m ih => exact ih.tail (c.move (Reaches.onward h |>.cancelled cut) m)

end Conduct

namespace RunState

variable {p : Plan} {s t : RunState}

/-! ### What is still recorded -/

/-- The step that an event is the start of an attempt at. -/
def startedStep? (e : LogEntry) : Option String :=
  match e.kind with
  | .stepStarted => e.stepId
  | _ => none

/-- An event that a cancelled run may still record: one of the loop, or the start of an attempt. -/
def Subdued (e : LogEntry) : Prop := OfLoop e ∨ ∃ id, startedStep? e = some id

/-- The steps that attempts are started at, in order. -/
def startedSteps (log : List LogEntry) : List String := log.filterMap startedStep?

/-- The steps that the scan in progress has still to visit. -/
def ahead (s : RunState) : List String :=
  match s.control with
  | .scanning rest _ => rest
  | _ => []

/-- The steps of those jobs that have not been polled yet. -/
def unpolled (jobs : List Job) : List String :=
  (jobs.filter fun j => j.phase matches .starting).map fun j => j.step.id

/-- The steps that an attempt may still be started at when the run is cancelled. -/
def mayStart (s : RunState) : List String := unpolled s.jobs ++ s.pending.filter (· ∈ s.ahead)

theorem startedStep?_eq_some_iff {e : LogEntry} {id : String} :
    startedStep? e = some id ↔ e.kind = .stepStarted ∧ e.stepId = some id := by
  unfold startedStep?
  split <;> simp_all

theorem startedSteps_ofLoop {log : List LogEntry} (h : ∀ e ∈ log, OfLoop e) :
    startedSteps log = [] := by
  refine List.filterMap_eq_nil_iff.2 fun e he => ?_
  have := h e he
  unfold OfLoop at this
  unfold startedStep?
  split at this <;> simp_all

/-- No step more may be started where jobs stay, no step becomes pending, and the scan goes on. -/
theorem mayStart_subperm (jobs : t.jobs = s.jobs) (pending : t.pending.Sublist s.pending)
    (ahead : t.ahead ⊆ s.ahead) : t.mayStart.Subperm s.mayStart := by
  unfold mayStart
  rw [jobs]
  refine (List.Sublist.append_left ?_ _).subperm
  refine (pending.filter _).trans (List.monotone_filter_right _ fun id hid => ?_)
  simpa using ahead (by simpa using hid)

theorem ahead_of_scanning {rest : List String} {progressed : Bool}
    (control : s.control = .scanning rest progressed) : s.ahead = rest := by
  unfold ahead
  rw [control]

/-- A cancelled run begins no scan. -/
theorem ahead_of_act (cut : s.cancelled = true) (m : Act p s t) : t.ahead ⊆ s.ahead := by
  have scan : ∀ {id rest progressed}, s.control = .scanning (id :: rest) progressed →
      rest ⊆ s.ahead := fun control => ahead_of_scanning control ▸ List.subset_cons_self ..
  cases m with
  | look =>
    unfold rescan ahead
    rw [cut]
    exact List.nil_subset _
  | pass control | skip control | expire control | launch control => exact scan control
  | scanned | again | takeIn | finish => exact List.nil_subset _
  | leave =>
    unfold RunState.leave
    split <;> exact List.nil_subset _
  | @drain e rest control =>
    have still : (s.takeIn e rest).ahead = [] := by
      unfold ahead
      rw [control_takeIn, control]
    exact still ▸ List.nil_subset _

theorem mayStart_launch {step : Step} {rest : List String} {progressed : Bool}
    (control : s.control = .scanning (step.id :: rest) progressed) (pending : step.id ∈ s.pending) :
    List.Subperm (mayStart { s.launch p step with control := .scanning rest progressed })
      s.mayStart := by
  have ahead := ahead_of_scanning control
  have unpolled : unpolled (s.launch p step).jobs = unpolled s.jobs ++ [step.id] := by
    simp [RunState.unpolled, RunState.launch, Job.ofStep]
  have moved : (s.pending.filter (· ∈ s.ahead)).Perm
      (step.id :: (s.pending.erase step.id).filter (· ∈ s.ahead)) := by
    have moved := (List.perm_cons_erase pending).filter (· ∈ s.ahead)
    rwa [List.filter_cons_of_pos (by simp [ahead])] at moved
  have fewer : ((s.pending.erase step.id).filter (· ∈ rest)).Sublist
      ((s.pending.erase step.id).filter (· ∈ s.ahead)) :=
    List.monotone_filter_right _ fun id hid => by simp_all
  change List.Subperm
    (RunState.unpolled (s.launch p step).jobs ++ (s.pending.erase step.id).filter (· ∈ rest)) _
  rw [unpolled, List.append_assoc]
  exact (List.subperm_append_left _).2 ((fewer.cons_cons step.id).subperm.trans moved.symm.subperm)

theorem mayStart_of_act (cut : s.cancelled = true) (m : Act p s t) :
    t.mayStart.Subperm s.mayStart := by
  have ahead := ahead_of_act cut m
  have pending := pending_sublist_of_act m
  cases m with
  | look | scanned | again | pass | skip | expire => exact mayStart_subperm rfl pending ahead
  | @launch id rest progressed step control mem _ _ _ found =>
    obtain rfl := Program.id_of_step? found
    exact mayStart_launch control mem
  | leave =>
    refine mayStart_subperm ?_ pending ahead
    unfold RunState.leave
    split <;> rfl
  | takeIn | drain => exact mayStart_subperm (jobs_takeIn ..) pending ahead
  | finish => exact mayStart_subperm (sameFrame_skips ..).jobs pending ahead

/-- Polled in a cancelled run, a job ends. -/
theorem poll_of_cancelled {turn : Nat} {id : String} (cut : s.cancelled = true)
    (m : Poll p turn id s t) : ∃ j, s.jobs.find? (isJobOf id) = some j ∧
      t = { s with
        log := s.log ++ j.lastEntries p s.now
        jobs := First.remove (isJobOf id) s.jobs
        ended := s.ended ++ [⟨id, .finished (j.lastResult p s.now) j.superseded⟩] } := by
  cases m with
  | @waits j j' log found ready polled =>
    rw [cut, Job.poll_cancelled] at polled
    cases polled
  | @ends j outcome log found ready polled =>
    rw [cut, Job.poll_cancelled] at polled
    cases polled
    exact ⟨j, found, rfl⟩

/-- A job that is polled for the last time records its start if it had not been polled before. -/
theorem startedSteps_lastEntries (p : Plan) (now : Nat) (j : Job) :
    (startedSteps (j.lastEntries p now)).Sublist (unpolled [j]) := by
  unfold Job.lastEntries
  cases phase : j.phase with
  | starting =>
    simp only
    split
    · exact List.nil_sublist _
    · simp [startedSteps, startedStep?, Job.entry, unpolled, phase]
  | working | backingOff => exact List.nil_sublist _

theorem subdued_lastEntries {p : Plan} {now : Nat} {j : Job} :
    ∀ e ∈ j.lastEntries p now, Subdued e := by
  unfold Job.lastEntries
  split
  · split
    · exact List.forall_mem_nil _
    · exact List.forall_mem_singleton.2 (.inr ⟨_, rfl⟩)
  · exact List.forall_mem_nil _

theorem unpolled_perm {j : Job} {id : String} (found : s.jobs.find? (isJobOf id) = some j) :
    (unpolled s.jobs).Perm (unpolled [j] ++ unpolled (First.remove (isJobOf id) s.jobs)) := by
  have split : s.jobs.Perm ([j] ++ First.remove (isJobOf id) s.jobs) := First.perm_remove found
  have split := (split.filter fun j => j.phase matches .starting).map fun j => j.step.id
  rwa [List.filter_append, List.map_append] at split

/-- A move of a cancelled run records nothing of handlers, and the start only of steps that could be
started, each once. -/
theorem starts_of_move {o : Surroundings} (cut : s.cancelled = true) (m : Move o p s t) :
    ∃ new, t.log = s.log ++ new ∧ (startedSteps new ++ t.mayStart).Subperm s.mayStart ∧
      ∀ e ∈ new, Subdued e := by
  have quiet : t.log = s.log → t.mayStart = s.mayStart → ∃ new, t.log = s.log ++ new ∧
      (startedSteps new ++ t.mayStart).Subperm s.mayStart ∧ ∀ e ∈ new, Subdued e :=
    fun log same => ⟨[], by rw [log, List.append_nil], same ▸ List.Subperm.refl _,
      List.forall_mem_nil _⟩
  cases m with
  | act m =>
    have act := act_of_act? m
    obtain ⟨new, log, ofLoop⟩ := adds_ofLoop_of_act act
    refine ⟨new, log, ?_, fun e he => .inl (ofLoop e he)⟩
    rw [startedSteps_ofLoop ofLoop, List.nil_append]
    exact mayStart_of_act cut act
  | poll m =>
    obtain ⟨j, found, rfl⟩ := poll_of_cancelled cut (poll_of_poll? m)
    refine ⟨_, rfl, ?_, subdued_lastEntries⟩
    -- a job that records its start is not among the unpolled ones any more
    have recorded := startedSteps_lastEntries p s.now j
    unfold mayStart
    rw [← List.append_assoc]
    refine ((recorded.append_right _).append_right _).subperm.trans ?_
    exact ((unpolled_perm found).append_right _).symm.subperm
  | cancel => exact quiet rfl rfl
  | elapse => exact quiet rfl rfl

/-- From a cancellation on the same holds of any number of moves. -/
theorem starts_of_reaches {o : Surroundings} (cut : s.cancelled = true) (h : Reaches o p s t) :
    ∃ new, t.log = s.log ++ new ∧ (startedSteps new ++ t.mayStart).Subperm s.mayStart ∧
      ∀ e ∈ new, Subdued e := by
  induction h with
  | refl => exact ⟨[], (List.append_nil _).symm, List.Subperm.refl _, List.forall_mem_nil _⟩
  | @tail t u h m ih =>
    obtain ⟨new, log, started, quiet⟩ := ih
    obtain ⟨more, log', started', quiet'⟩ := starts_of_move (Reaches.onward h |>.cancelled cut) m
    refine ⟨new ++ more, by rw [log', log, List.append_assoc], ?_,
      List.forall_mem_append.2 ⟨quiet, quiet'⟩⟩
    have split : startedSteps (new ++ more) = startedSteps new ++ startedSteps more :=
      List.filterMap_append
    rw [split, List.append_assoc]
    exact ((List.subperm_append_left _).2 started').trans started

theorem Coherent.nodup_mayStart (hp : p.Sound) (h : Coherent p s) : s.mayStart.Nodup := by
  have unpolled : (unpolled s.jobs).Sublist s.flightIds :=
    (List.filter_sublist.map _).trans (List.sublist_append_left ..)
  refine List.nodup_append.2 ⟨(h.nodup_flightIds hp).sublist unpolled,
    (h.nodup_pending hp).filter _, ?_⟩
  rintro id flight _ pending rfl
  have nodup := h.places.nodup_iff.2 hp.nodup_nodes
  exact (List.nodup_append.1 nodup).2.2 id (List.mem_of_mem_filter pending) id
    (List.mem_append_left _ (unpolled.subset flight)) rfl

end RunState

open RunState in
/-- After the cancellation of a run an attempt is recorded as started at most once for each step, and
only at a step whose job had been started but not polled yet, or that a scan in progress still had
to visit. -/
theorem starts_after_cancellation {d : Dispatcher} {program : Program}
    (clean : program.Clean d.registry d.evaluator) {settings : ExecutionSettings} {scope : RunScope}
    {p : Plan} (plan : p = Plan.make d settings program scope) {context : RunContext}
    {cancelled : Bool} {s : RunState} (reached : Reaches .free p (start p context cancelled) s)
    (cut : s.cancelled = true) {t : RunState} (later : Reaches .free p s t) :
    ∃ new, t.log = s.log ++ new ∧ (startedSteps new).Nodup ∧
      ∀ e ∈ new, e.kind = .stepStarted → ∃ id, e.stepId = some id ∧
        ((∃ j ∈ s.jobs, j.step.id = id ∧ j.phase = .starting) ∨ id ∈ s.pending ∧ id ∈ s.ahead) := by
  have hp : p.Sound := plan ▸ Plan.sound_make clean settings scope
  have orderly := Orderly.of_reaches hp reached
  obtain ⟨new, log, started, subdued⟩ := starts_of_reaches cut later
  have started : (startedSteps new).Subperm s.mayStart :=
    (List.sublist_append_left ..).subperm.trans started
  have once : (startedSteps new).Nodup := by
    obtain ⟨steps, same, sublist⟩ := started
    exact same.nodup_iff.1 ((orderly.nodup_mayStart hp).sublist sublist)
  refine ⟨new, log, once, fun e he kind => ?_⟩
  have loop : ¬ OfLoop e := fun h => h.noStart kind
  obtain ⟨id, hid⟩ := (subdued e he).resolve_left loop
  have mem : id ∈ s.mayStart := started.subset (List.mem_filterMap.2 ⟨e, he, hid⟩)
  refine ⟨id, (startedStep?_eq_some_iff.1 hid).2, ?_⟩
  rcases List.mem_append.1 mem with unpolled | scanned
  · obtain ⟨j, hj, own⟩ := List.mem_map.1 unpolled
    obtain ⟨hj, starting⟩ := List.mem_filter.1 hj
    refine .inl ⟨j, hj, own, ?_⟩
    cases phase : j.phase <;> simp_all
  · exact .inr (by simpa using List.mem_filter.1 scanned)

/-- A program in which `mail` is started while a task that nobody does breaks the run off. -/
def Program.errand : Program where
  id := "errand"
  status := .published
  steps := [{ id := "ask", next := ["mail"] }, { id := "assign", action := { type := .assignTask } },
    { id := "mail" }]

theorem clean_errand :
    Program.errand.Clean Dispatcher.abrupt.registry Dispatcher.abrupt.evaluator :=
  .of_checks rfl (by decide +kernel) (by decide +kernel) (by decide +kernel)

def Plan.errand : Plan := .abrupt (Program.errand.withLimit .parallel 2)

theorem sound_errand : Plan.errand.Sound :=
  Plan.sound_make (clean_errand.withLimit .parallel (by decide)) ..

theorem unreachable_errand : Plan.errand.unreachable = [] := by
  have capable : ∀ step ∈ Program.errand.steps, step.trigger.type.isEntryCapable = true := by decide
  exact sound_errand.unreachable_eq_nil fun step declared _ => capable step declared

/-- The run is cancelled while the job of `mail` has not been polled yet. -/
theorem errand_is_cancelled : ∃ context s t,
    Reaches .free .errand (RunState.start .errand context false) s ∧ s.cancelled = true ∧
    Reaches .free .errand s t ∧ ∃ new, t.log = s.log ++ new ∧ RunState.startedSteps new = ["mail"] := by
  let s := Plan.errand.after 12
  let t := (RunState.drive .errand)^[3] s
  have facts : s.cancelled = true ∧
      RunState.startedSteps (t.log.drop s.log.length) = ["mail"] := by
    simp only [s, t, Plan.after, RunState.start, unreachable_errand]
    decide +kernel
  have later : Reaches .free .errand s t := (execution_drive .errand s).reaches 3
  obtain ⟨new, log⟩ := later.onward.log
  refine ⟨_, s, t, Plan.reaches_after _ 12, facts.1, later, new, log.symm, ?_⟩
  rw [← facts.2, ← log, List.drop_left]

theorem mail_starts_once : ∃ context s t,
    Reaches .free .errand (RunState.start .errand context false) s ∧ s.cancelled = true ∧
    Reaches .free .errand s t ∧
    ∃ new, t.log = s.log ++ new ∧ (RunState.startedSteps new).Nodup ∧
      ∀ e ∈ new, e.kind = .stepStarted → ∃ id, e.stepId = some id ∧
        ((∃ j ∈ s.jobs, j.step.id = id ∧ j.phase = .starting) ∨ id ∈ s.pending ∧ id ∈ s.ahead) := by
  obtain ⟨context, s, t, reached, cut, later, -⟩ := errand_is_cancelled
  have clean := clean_errand.withLimit .parallel (by decide : 0 < 2)
  exact ⟨context, s, t, reached, cut, later,
    starts_after_cancellation clean rfl reached cut later⟩

/-- The start of an attempt can be recorded after the run was cancelled. -/
theorem mail_starts_after_cancellation :
    (Program.errand.withLimit .parallel 2).Clean Dispatcher.abrupt.registry
      Dispatcher.abrupt.evaluator ∧
    ∃ context s t new e,
      Reaches .free .errand (RunState.start .errand context false) s ∧ s.cancelled = true ∧
      Reaches .free .errand s t ∧ t.log = s.log ++ new ∧ e ∈ new ∧ e.kind = .stepStarted := by
  obtain ⟨context, s, t, reached, cut, later, new, log, starts⟩ := errand_is_cancelled
  have mem : "mail" ∈ RunState.startedSteps new := by simp [starts]
  obtain ⟨e, mem, he⟩ := List.mem_filterMap.1 mem
  have kind := (RunState.startedStep?_eq_some_iff.1 he).1
  exact ⟨clean_errand.withLimit .parallel (by decide), context, s, t, new, e, reached, cut, later,
    log, mem, kind⟩

end Playbook
