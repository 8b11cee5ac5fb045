import Playbook.Proofs.Run.Scheduling
import Playbook.Proofs.Run.Table
import Playbook.Proofs.Run.Termination

/-!
How runs are settled in the table. The table of a scheduler agrees with its runs: what it shows is
where a run stands, and each run is shown that is not settled. A run that broke off is never settled,
so it is shown as running for good; and a run breaks off where its program may run and the clock
cannot tell its deadline, and only there.
-/
namespace Playbook

namespace RunState

/-- What is over stays over. -/
theorem isOver_of_move {o : Surroundings} {p : Plan} {s t : RunState} (m : Move o p s t)
    (finished : s.isOver = true) : t.isOver = true := by
  cases m with
  | act m => simp [act?_eq_none_iff.2 (.inl finished)] at m
  | poll m =>
    unfold isOver at *
    rwa [(poll_of_poll? m).frame.control]
  | cancel | elapse => exact finished

theorem isSome_result (p : Plan) (start : Instant) (s : RunState) :
    (s.result p start).isSome = s.isOver := by
  unfold result isOver
  split <;> rfl

end RunState

/-- A program may run, and the clock cannot tell the deadline of a run that is submitted now. -/
def Scheduler.BreaksOff (w : Scheduler) (p : Program) : Prop :=
  Plan.permit w.executor.dispatcher.registry w.executor.dispatcher.evaluator p = .ok () ∧
    ∃ seconds, p.execution.runDeadlineSeconds = some seconds ∧ w.clock.tells w.now seconds = false

/-- A stage to which a run of a program can come that was submitted to a scheduler. -/
def Stage.Of (origin : Scheduler) (program : Program) : Stage → Prop
  | .submitted p _ => p = program
  | .crashed => origin.BreaksOff program
  | _ => ¬ origin.BreaksOff program

namespace ScheduledRun

/-- Where a run stands. -/
def phase (epoch : Instant) (r : ScheduledRun) : RunPhase :=
  match r.stage with
  | .rejected cause => .rejected cause.message
  | .active p s => (s.result p (epoch.addMillis r.startedAt)).elim .running .finished
  | _ => .running

theorem phase_eq_running_iff {epoch : Instant} {r : ScheduledRun} :
    r.phase epoch = .running ↔ r.stage.isSettled = false := by
  unfold phase
  cases r.stage with
  | submitted | crashed => exact iff_of_true rfl rfl
  | rejected cause => exact iff_of_false (fun h => nomatch h) (fun h => nomatch h)
  | active p s =>
    change Option.elim _ _ _ = _ ↔ s.isOver = false
    rw [← s.isSome_result p (epoch.addMillis r.startedAt)]
    cases s.result p (epoch.addMillis r.startedAt) <;> simp

/-- A run that has ended breaks off, or is settled. -/
theorem phase_eq_running_of_ended (epoch : Instant) {origin : Scheduler} {program : Program}
    {r : ScheduledRun} (own : r.stage.Of origin program) (ended : r.stage.hasEnded = true) :
    r.phase epoch = .running ↔ origin.BreaksOff program := by
  rw [phase_eq_running_iff]
  cases stage : r.stage with
  | submitted p context =>
    rw [stage] at ended
    cases ended
  | crashed =>
    rw [stage] at own
    exact iff_of_true rfl own
  | rejected | active =>
    rw [stage] at own ended
    exact iff_of_false (fun going => nomatch ended.symm.trans going) own

end ScheduledRun

namespace Scheduler

/-- Where the runs stand. -/
def phases (w : Scheduler) (id : String) : Option RunPhase :=
  (w.run? id).map (ScheduledRun.phase w.epoch)

/-- The table shows where the runs stand, and all that are running. -/
def Tabled (w : Scheduler) : Prop := w.table.Agrees w.phases

/-- The run with an id is one of a program, and it was submitted to `origin`. -/
structure Runs (origin : Scheduler) (program : Program) (id : String) (w : Scheduler) : Prop where
  executor : w.executor = origin.executor
  clock : w.clock = origin.clock
  run : ∃ r, w.run? id = some r ∧ r.startedAt = origin.now ∧ r.stage.Of origin program

/-- What can happen to a scheduler where no id is given to a second run. -/
inductive Evolves (w : Scheduler) : Scheduler → Prop
  | submit {id : String} (new : w.run? id = none) (program : Program) (context : RunContext) :
      Evolves w (w.submit id program context)
  | cancel (id : String) : Evolves w (w.cancel id)
  | step {early : Nat → Bool} {w' : Scheduler} (h : w.step? early = some w') : Evolves w w'
  | elapse (moment : Nat) : Evolves w (w.elapseTo moment)

variable {w w' : Scheduler} {r r' : ScheduledRun}

/-! ### The table -/

theorem phases_of_replace (found : w.run? r.id = some r)
    (runs : w'.runs = First.replace (isRun r.id) r' w.runs) (same : r'.id = r.id)
    (epoch : w'.epoch = w.epoch) : w'.phases r.id = some (r'.phase w.epoch) ∧
      ∀ id, id ≠ r.id → w'.phases id = w.phases id := by
  obtain ⟨replaced, kept⟩ := run?_of_replace found runs same
  unfold phases
  rw [epoch]
  exact ⟨by rw [replaced]; rfl, fun id other => by rw [kept id other]⟩

/-- A run changes that stands where it stood. -/
theorem Tabled.of_same (h : Tabled w) (found : w.run? r.id = some r)
    (runs : w'.runs = First.replace (isRun r.id) r' w.runs) (same : r'.id = r.id)
    (epoch : w'.epoch = w.epoch) (table : w'.table = w.table)
    (phase : r'.phase w.epoch = r.phase w.epoch) : Tabled w' := by
  obtain ⟨here, others⟩ := phases_of_replace found runs same epoch
  have all : w'.phases = w.phases := by
    funext id
    by_cases own : id = r.id
    · rw [own, here, phase]
      unfold phases
      rw [found]
      rfl
    · exact others id own
  unfold Tabled
  rwa [table, all]

/-- A run changes and is settled. -/
theorem Tabled.of_settle (h : Tabled w) (found : w.run? r.id = some r)
    (runs : w'.runs = First.replace (isRun r.id) r' w.runs) (same : r'.id = r.id)
    (epoch : w'.epoch = w.epoch) {phase : RunPhase} {limit : Nat}
    (table : w'.table = (w.table.settle r.id phase).evict limit)
    (stands : r'.phase w.epoch = phase) (settled : phase.isRunning = false) : Tabled w' := by
  obtain ⟨here, others⟩ := phases_of_replace found runs same epoch
  unfold Tabled
  rw [table]
  exact (RunTable.Agrees.settle h (stands ▸ here) settled others).evict limit

theorem table_advanceRun (w : Scheduler) (r : ScheduledRun) (p : Plan) (s t : RunState) :
    (w.advanceRun r p s t).epoch = w.epoch ∧ (w.advanceRun r p s t).table =
      match t.result p (w.epoch.addMillis r.startedAt) with
      | some result => (w.table.settle r.id (.finished result)).evict w.maxRetained
      | none => w.table := by
  unfold Scheduler.advanceRun
  simp only
  split
  · next result =>
    change t.result p (w.epoch.addMillis r.startedAt) = _ at result
    rw [result]
    exact ⟨rfl, rfl⟩
  · next result =>
    change t.result p (w.epoch.addMillis r.startedAt) = _ at result
    rw [result]
    exact ⟨rfl, rfl⟩

/-- A run that moves is settled when it is over. -/
theorem Tabled.advanceRun (h : Tabled w) (found : w.run? r.id = some r) {o : Surroundings}
    {p : Plan} {s t : RunState} (active : r.stage = .active p s) (m : Move o p s t)
    (cancelled : Bool) : Tabled (w.advanceRun { r with cancelled } p s t) := by
  have runs := runs_advanceRun w { r with cancelled } p s t
  obtain ⟨epoch, table⟩ := table_advanceRun w { r with cancelled } p s t
  cases result : t.result p (w.epoch.addMillis r.startedAt) with
  | some outcome =>
    rw [result] at table
    refine h.of_settle found runs rfl epoch table ?_ rfl
    simp only [ScheduledRun.phase, result, Option.elim]
  | none =>
    rw [result] at table
    refine h.of_same found runs rfl epoch table ?_
    -- a run that is not over now was not over before, so it is shown as running already
    have going : s.isOver = false := by
      by_contra finished
      have stays := RunState.isOver_of_move m (by simpa using finished)
      rw [← t.isSome_result p (w.epoch.addMillis r.startedAt), result] at stays
      cases stays
    have waits : r.phase w.epoch = .running :=
      ScheduledRun.phase_eq_running_iff.2 (by rw [active]; exact going)
    rw [waits]
    simp only [ScheduledRun.phase, result, Option.elim]

/-- A submitted run is settled as it begins, or goes on. -/
theorem Tabled.begin (h : Tabled w) (found : w.run? r.id = some r) {program : Program}
    {context : RunContext} (submitted : r.stage = .submitted program context) :
    Tabled (w.beginRun r program context) := by
  have waits : r.phase w.epoch = .running :=
    ScheduledRun.phase_eq_running_iff.2 (by rw [submitted]; rfl)
  unfold Scheduler.beginRun
  simp only
  split
  · exact h.of_settle found rfl rfl rfl rfl rfl rfl
  · split
    · exact h.of_same found rfl rfl rfl rfl waits.symm
    · refine h.of_same found rfl rfl rfl rfl (Eq.trans ?_ waits.symm)
      refine ScheduledRun.phase_eq_running_iff.2 ?_
      unfold Stage.isSettled RunState.isOver
      simp only [RunState.control_start]

theorem Tabled.cancel (h : Tabled w) (id : String) : Tabled (w.cancel id) := by
  unfold Scheduler.cancel
  split
  · exact h
  · next r found =>
    obtain rfl := run?_id found
    split
    · next p s active =>
      exact h.advanceRun found active (.cancel (o := .free) trivial) true
    · exact h.of_same found rfl rfl rfl rfl rfl

theorem Tabled.elapseTo (h : Tabled w) (moment : Nat) : Tabled (w.elapseTo moment) := by
  have same : (w.elapseTo moment).phases = w.phases := by
    funext id
    unfold phases
    rw [run?_elapseTo]
    cases w.run? id with
    | none => rfl
    | some r =>
      refine congrArg some ?_
      change ScheduledRun.phase w.epoch (r.elapseTo moment) = r.phase w.epoch
      unfold ScheduledRun.elapseTo
      split
      · next active =>
        unfold ScheduledRun.phase
        rw [active]
        rfl
      · rfl
  unfold Tabled
  rw [same]
  exact h

theorem Tabled.submit (h : Tabled w) {id : String} (new : w.run? id = none) (program : Program)
    (context : RunContext) : Tabled (w.submit id program context) := by
  refine RunTable.Agrees.insert h ?_ (fun other apart => ?_) w.maxRetained
  · unfold phases
    rw [run?_submit, new]
    simp [ScheduledRun.phase]
  · unfold phases
    rw [run?_submit]
    simp [Ne.symm apart]
    rfl

theorem Tabled.evolves (h : Tabled w) (m : Evolves w w') : Tabled w' := by
  cases m with
  | submit new program context => exact h.submit new program context
  | cancel id => exact h.cancel id
  | elapse moment => exact h.elapseTo moment
  | step m =>
    cases steps_of_step? m with
    | waits => exact h
    | elapses => exact h.elapseTo _
    | goes _ acts =>
      cases acts with
      | begins found submitted => exact h.begin found submitted
      | @loop r _ _ _ found active acts =>
        exact h.advanceRun found active (.act (o := .free) acts) r.cancelled
      | @job r _ _ _ _ found active polls =>
        exact h.advanceRun found active (.poll (o := .free) polls) r.cancelled

/-- Whatever happens, the table of a scheduler shows where its runs stand. -/
theorem tabled_of_evolves (runs : w.runs = []) (table : w.table = {})
    (h : Relation.ReflTransGen Evolves w w') : Tabled w' := by
  induction h with
  | refl =>
    have none : w.phases = fun _ => none := by
      funext id
      simp [phases, run?, runs]
    unfold Tabled
    rw [none, table]
    exact RunTable.agrees_empty
  | tail _ m ih => exact ih.evolves m

/-! ### Programs of runs -/

variable {origin : Scheduler} {program : Program} {id : String}

theorem Runs.of_replace (h : Runs origin program id w) (found : w.run? r.id = some r)
    (runs : w'.runs = First.replace (isRun r.id) r' w.runs) (same : r'.id = r.id)
    (started : r'.startedAt = r.startedAt) (executor : w'.executor = w.executor)
    (clock : w'.clock = w.clock)
    (stage : r.startedAt = origin.now → r.stage.Of origin program → r'.stage.Of origin program) :
    Runs origin program id w' := by
  obtain ⟨replaced, kept⟩ := run?_of_replace found runs same
  obtain ⟨known, there, begun, own⟩ := h.run
  refine ⟨executor.trans h.executor, clock.trans h.clock, ?_⟩
  by_cases here : id = r.id
  · subst here
    cases found.symm.trans there
    exact ⟨r', replaced, started.trans begun, stage begun own⟩
  · exact ⟨known, (kept id here).trans there, begun, own⟩

theorem Runs.advanceRun (h : Runs origin program id w) (found : w.run? r.id = some r) {p : Plan}
    {s t : RunState} (active : r.stage = .active p s) (cancelled : Bool) :
    Runs origin program id (w.advanceRun { r with cancelled } p s t) := by
  have kept : (w.advanceRun { r with cancelled } p s t).executor = w.executor ∧
      (w.advanceRun { r with cancelled } p s t).clock = w.clock := by
    unfold Scheduler.advanceRun
    simp only
    split <;> exact ⟨rfl, rfl⟩
  refine h.of_replace found (runs_advanceRun ..) rfl rfl kept.1 kept.2 fun _ own => ?_
  rw [active] at own
  exact own

/-- Neither the executor nor the clock changes, so what breaks off can be told at any time. -/
theorem Runs.breaksOff_iff (h : Runs origin program id w) (p : Program) : origin.BreaksOff p ↔
    Plan.permit w.executor.dispatcher.registry w.executor.dispatcher.evaluator p = .ok () ∧
      ∃ seconds, p.execution.runDeadlineSeconds = some seconds ∧
        w.clock.tells origin.now seconds = false := by
  rw [BreaksOff, h.executor, h.clock]

/-- A run breaks off as it begins, or never does. -/
theorem Runs.begin (h : Runs origin program id w) (found : w.run? r.id = some r) {p : Program}
    {context : RunContext} (submitted : r.stage = .submitted p context) :
    Runs origin program id (w.beginRun r p context) := by
  have own : r.stage.Of origin program → p = program := by
    rw [submitted]
    exact fun own => own
  unfold Scheduler.beginRun
  simp only
  split
  · next refused =>
    refine h.of_replace found rfl rfl rfl rfl rfl fun _ mine => ?_
    cases own mine
    refine fun breaks => ?_
    obtain ⟨permitted, -⟩ := (h.breaksOff_iff _).1 breaks
    cases refused.symm.trans permitted
  · next permitted =>
    split
    · next beyond =>
      refine h.of_replace found rfl rfl rfl rfl rfl fun begun mine => ?_
      cases own mine
      rw [begun] at beyond
      exact (h.breaksOff_iff _).2 ⟨permitted, by simpa [Option.any_eq_true] using beyond⟩
    · next within =>
      refine h.of_replace found rfl rfl rfl rfl rfl fun begun mine => ?_
      cases own mine
      refine fun breaks => ?_
      obtain ⟨-, seconds, deadline, beyond⟩ := (h.breaksOff_iff _).1 breaks
      simp [begun, deadline, beyond] at within

theorem Runs.cancel (h : Runs origin program id w) (other : String) :
    Runs origin program id (w.cancel other) := by
  unfold Scheduler.cancel
  split
  · exact h
  · next r found =>
    obtain rfl := run?_id found
    split
    · next active => exact h.advanceRun found active true
    · exact h.of_replace found rfl rfl rfl rfl rfl fun _ own => own

theorem Runs.elapseTo (h : Runs origin program id w) (moment : Nat) :
    Runs origin program id (w.elapseTo moment) := by
  obtain ⟨r, found, begun, own⟩ := h.run
  refine ⟨h.executor, h.clock, r.elapseTo moment, by rw [run?_elapseTo, found]; rfl, ?_⟩
  unfold ScheduledRun.elapseTo
  split
  · next active =>
    rw [active] at own
    exact ⟨begun, own⟩
  · exact ⟨begun, own⟩

/-- Whatever happens, a run is one of the program that it was submitted for. -/
theorem Runs.evolves (h : Runs origin program id w) (m : Evolves w w') :
    Runs origin program id w' := by
  cases m with
  | submit new p context =>
    obtain ⟨r, found, own⟩ := h.run
    exact ⟨h.executor, h.clock, r, by rw [run?_submit, found]; rfl, own⟩
  | cancel other => exact h.cancel other
  | elapse moment => exact h.elapseTo moment
  | step m =>
    cases steps_of_step? m with
    | waits => exact ⟨h.executor, h.clock, h.run⟩
    | elapses => exact h.elapseTo _
    | goes _ acts =>
      cases acts with
      | begins found submitted => exact h.begin found submitted
      | @loop r _ _ _ found active => exact h.advanceRun found active r.cancelled
      | @job r _ _ _ _ found active => exact h.advanceRun found active r.cancelled

theorem runs_of_evolves (h : Runs origin program id w) (m : Relation.ReflTransGen Evolves w w') :
    Runs origin program id w' := by
  induction m with
  | refl => exact h
  | tail _ m ih => exact ih.evolves m

/-- A run that has been submitted is one of its program. -/
theorem runs_submit (new : w.run? id = none) (program : Program) (context : RunContext) :
    Runs w program id (w.submit id program context) := by
  refine ⟨rfl, rfl, ⟨id, w.now, false, 0, .submitted program context⟩, ?_, rfl, ?_⟩
  · rw [run?_submit, new, Option.none_or, if_pos rfl]
  · exact (rfl : program = program)

/-- A run that has ended is shown as running only if it broke off. -/
theorem Tabled.shown_running_iff (h : Tabled w) (own : Runs origin program id w)
    (ended : w.hasEnded id = true) :
    w.table.phase? id = some .running ↔ origin.BreaksOff program := by
  obtain ⟨r, found, -, stage⟩ := own.run
  have stands : w.phases id = some (r.phase w.epoch) := by
    unfold phases
    rw [found]
    rfl
  unfold hasEnded at ended
  rw [found] at ended
  rw [← ScheduledRun.phase_eq_running_of_ended w.epoch stage ended]
  constructor
  · intro shows
    exact Option.some.inj (stands.symm.trans (h.shown id _ shows))
  · exact fun going => h.running id (going ▸ stands)

end Scheduler
end Playbook
