import Playbook.Proofs.Run.Overrun
import Playbook.Proofs.Run.Retries
import Playbook.Proofs.Run.Scan

/-!
How much of a run goes on at once. The steps in flight are those that were started and have no result
yet, whether their jobs have ended or not; there are never more of them than the limit of the plan,
and none is started again. A handler that goes on belongs to an attempt of a job in flight, so no
more handlers go on at once.
-/
namespace Playbook

open Json (Value)

/-- The event of a handler that begins. -/
def LogEntry.isInvocation (e : LogEntry) : Bool := e.kind matches .handlerInvoked ..

/-- The limit of a plan is one, or what the program asks for under the limit of the settings. -/
theorem ExecutionPolicy.limit_le (e : ExecutionPolicy) (hardLimit : Nat) :
    (e.strategy = .parallel → e.limit hardLimit ≤ max 1 (min e.parallelLimit hardLimit)) ∧
      (e.strategy ≠ .parallel → e.limit hardLimit ≤ 1) := by
  unfold limit
  cases e.strategy <;> simp [Nat.max_comm]

namespace RunState

/-- An attempt at a step has invoked a handler, which may have returned since, and is not over: no
entry tells that another attempt follows, and the job of the step has not ended. -/
def Engaged (s : RunState) (id : String) (number : Nat) : Prop :=
  (∃ e ∈ s.log, e.stepId = some id ∧ e.attempt = some number ∧ e.isInvocation = true) ∧
    (∀ e ∈ s.log, e.stepId = some id → e.attempt = some number → e.isRetry = false) ∧
    id ∉ s.ended.map EndedJob.stepId ∧ s.isTerminal id = false

instance (s : RunState) (id : String) (number : Nat) : Decidable (s.Engaged id number) :=
  inferInstanceAs (Decidable (_ ∧ _ ∧ _ ∧ _))

section limit

variable {o : Surroundings} {p : Plan} {s t : RunState} {context : RunContext} {cancelled : Bool}

theorem length_flightIds (s : RunState) : s.flightIds.length = s.inFlight := by
  simp [flightIds, inFlight]

theorem SameFrame.inFlight (h : SameFrame s t) : t.inFlight = s.inFlight := by
  unfold RunState.inFlight
  rw [h.jobs, h.ended]

theorem inFlight_takeIn {e : EndedJob} {rest : List EndedJob} (ended : s.ended = e :: rest) :
    (s.takeIn e rest).inFlight ≤ s.inFlight := by
  simp [RunState.inFlight, ended]

theorem inFlight_launch (p : Plan) (step : Step) (s : RunState) :
    (s.launch p step).inFlight = s.inFlight + 1 := by
  simp only [RunState.inFlight, RunState.launch, List.length_append, List.length_singleton]
  omega

/-- The loop adds to what is in flight only where there is a place. -/
theorem inFlight_le_of_act (m : Act p s t) (h : s.inFlight ≤ p.limit) : t.inFlight ≤ p.limit := by
  cases m with
  | look | scanned | pass | skip | expire | again => exact h
  | launch _ _ _ place => exact (inFlight_launch ..).le.trans place
  | leave =>
    unfold RunState.leave
    split <;> exact h
  | takeIn _ _ ended => exact (inFlight_takeIn ended).trans h
  | drain _ ended => exact (inFlight_takeIn ended).trans h
  | finish => exact (sameFrame_skips ..).inFlight.le.trans h

theorem inFlight_le_limit (reached : Reaches o p (start p context cancelled) s) :
    s.inFlight ≤ p.limit := by
  refine reached.keeps (P := fun s => s.inFlight ≤ p.limit) (fun s t h m => ?_) ?_
  · cases m with
    | act m => exact inFlight_le_of_act (act_of_act? m) h
    | poll m => exact (poll_of_poll? m).frame.inFlight ▸ h
    | cancel | elapse => exact h
  · simp [RunState.inFlight]

/-- The steps in flight are those that were started and have no result yet. -/
theorem mem_flightIds_iff (hp : p.Sound) (reached : Reaches o p (start p context cancelled) s)
    {id : String} : id ∈ s.flightIds ↔ s.isTerminal id = false ∧
      ∃ step vars, Dispatched o p (start p context cancelled) s step vars ∧ step.id = id := by
  have ho := Orderly.of_reaches hp reached
  constructor
  · intro flight
    refine ⟨ho.isTerminal_of_flight hp flight, ?_⟩
    have tracked := Tracked.of_reaches (Job.law_views o p) reached
    rcases List.mem_append.1 flight with mem | mem
    · obtain ⟨j, job, own⟩ := List.mem_map.1 mem
      exact ⟨j.step, j.variables, (tracked.jobs j job).1, own⟩
    · obtain ⟨e, ended, rfl⟩ := List.mem_map.1 mem
      obtain ⟨step, vars, dispatched, own, -⟩ := tracked.ended e ended
      exact ⟨step, vars, dispatched, own⟩
  · rintro ⟨fresh, step, vars, dispatched, rfl⟩
    have place := ho.places.mem_iff.2 (dispatched.mem_nodes hp)
    rcases List.mem_append.1 place with pending | place
    · exact absurd pending (dispatched.departed hp).left
    · refine (List.mem_append.1 place).resolve_right fun known => ?_
      rw [isTerminal_iff.2 known] at fresh
      cases fresh

/-- A step is started once. -/
theorem Dispatched.ne_of_launch (hp : p.Sound) {step step' : Step} {vars : List (String × Value)}
    (h : Dispatched o p (start p context cancelled) s step vars) (acts : s.act? p = some t)
    (starts : t.jobs = s.jobs ++ [Job.ofStep p step' s.context.variables]) :
    step'.id ≠ step.id := by
  have pending : step'.id ∈ s.pending := (launches_of_act (act_of_act? acts) starts).pending
  exact fun same => (h.departed hp).left (same ▸ pending)

theorem Ended.stepId {id : String} {outcome : JobOutcome} (h : Ended s id outcome)
    (own : ∀ r past, outcome = .finished r past → r.stepId = id) :
    id ∈ s.ended.map EndedJob.stepId ∨ s.isTerminal id = true := by
  rcases h with mem | ⟨moment, mem⟩
  · exact .inl (List.mem_map_of_mem mem)
  · refine .inr (isTerminal_iff.2 (List.mem_map.2 ⟨_, mem, ?_⟩))
    cases outcome with
    | finished r past => exact own r past rfl
    | panicked message => rfl

/-- A handler that goes on belongs to the attempt on which a job in flight works. -/
theorem Engaged.exists_job (hp : p.Sound) (discreet : p.Discreet) {settings : ExecutionSettings}
    (policy : p.retry = .ofSettings settings p.program.execution)
    (reached : Reaches o p (start p context cancelled) s) {id : String} {number : Nat}
    (h : s.Engaged id number) :
    ∃ j ∈ s.jobs, (∃ w, j.phase = .working w) ∧ j.step.id = id ∧ j.attempt = number := by
  obtain ⟨⟨e, mem, about, attempt, invoked⟩, last, going, fresh⟩ := h
  have told : e.kind.ofHandler = true := by
    unfold LogEntry.isInvocation at invoked
    cases kind : e.kind <;> simp_all [Trace.EventKind.ofHandler]
  obtain ⟨step, vars, -, explained⟩ :=
    explained (chronicled_makes hp discreet policy reached) (plain_of_run reached) mem
      fun plain => by simp [plain.2.2] at told
  cases explained with
  | @going j w entries job phase making _ mem =>
    obtain ⟨own, same, -⟩ := Trial.Entries.of_mem (.inr ⟨_, making.1⟩) mem
    refine ⟨j, job, ⟨w, phase⟩, ?_, ?_⟩
    · exact Option.some.inj (own.symm.trans about)
    · exact Option.some.inj (same.symm.trans attempt)
  | followed followed =>
    obtain ⟨n, r, entries, e', made, renewed, within, mem | rfl⟩ := followed
    · obtain ⟨own, same, -⟩ := made.1.of_mem mem
      have still := last e' (within (by simp)) (renewed.step.trans (own.symm.trans about))
        (renewed.attempt.trans (same.symm.trans attempt))
      simp [renewed.isRetry] at still
    · have still := last e mem about attempt
      simp [renewed.isRetry] at still
  | @last _ _ _ past _ _ came made _ ended _ mem =>
    obtain ⟨own, -⟩ := made.entries.of_mem mem
    obtain rfl := Option.some.inj (own.symm.trans about)
    have noted : ∀ r all, JobOutcome.ofLast past came = .finished r all → r.stepId = step.id := by
      intro r all finished
      cases came with
      | error message => cases finished
      | ok r' =>
        cases finished
        exact made.2.stepId hp
    rcases ended.stepId noted with left | known
    · exact absurd left going
    · simp [known] at fresh

/-- No more handlers go on at once than there are jobs. -/
theorem length_engaged_le (hp : p.Sound) (discreet : p.Discreet) {settings : ExecutionSettings}
    (policy : p.retry = .ofSettings settings p.program.execution)
    (reached : Reaches o p (start p context cancelled) s) {attempts : List (String × Nat)}
    (nodup : attempts.Nodup) (engaged : ∀ a ∈ attempts, s.Engaged a.1 a.2) :
    attempts.length ≤ s.inFlight := by
  have among : attempts ⊆ s.jobs.map fun j => (j.step.id, j.attempt) := by
    intro a mem
    obtain ⟨j, job, -, id, number⟩ := (engaged a mem).exists_job hp discreet policy reached
    exact List.mem_map.2 ⟨j, job, Prod.ext id number⟩
  calc
    attempts.length ≤ (s.jobs.map fun j => (j.step.id, j.attempt)).length :=
      (nodup.subperm among).length_le
    _ = s.jobs.length := List.length_map ..
    _ ≤ s.inFlight := Nat.le_add_right ..

end limit
end RunState

open RunState in
/-- How much of a run goes on at once, in any state that it reaches. The steps that were started and
have no result yet are all different, and no more than one, or than the program and the settings
allow if it is a parallel one. So there are no more handlers that go on, at most one for each step in
flight. And what was started once is not started again. -/
theorem flight_stays_within_limit {d : Dispatcher} {program : Program}
    (clean : program.Clean d.registry d.evaluator) {settings : ExecutionSettings} {scope : RunScope}
    {p : Plan} (plan : p = Plan.make d settings program scope) {context : RunContext}
    {cancelled : Bool} {s : RunState} (reached : Reaches .free p (start p context cancelled) s) :
    (∀ id, id ∈ s.flightIds ↔ s.isTerminal id = false ∧ ∃ step vars,
      Dispatched .free p (start p context cancelled) s step vars ∧ step.id = id) ∧
    s.flightIds.Nodup ∧
    (program.execution.strategy ≠ .parallel → s.flightIds.length ≤ 1) ∧
    (program.execution.strategy = .parallel → s.flightIds.length ≤
      max 1 (min program.execution.parallelLimit settings.parallelHardLimit)) ∧
    (∀ id number, s.Engaged id number → id ∈ s.flightIds ∧
      ∀ other, s.Engaged id other → other = number) ∧
    (∀ attempts : List (String × Nat), attempts.Nodup → (∀ a ∈ attempts, s.Engaged a.1 a.2) →
      attempts.length ≤ s.flightIds.length) ∧
    ∀ step vars, Dispatched .free p (start p context cancelled) s step vars →
      ∀ t step', s.act? p = some t →
      t.jobs = s.jobs ++ [Job.ofStep p step' s.context.variables] → step'.id ≠ step.id := by
  have hp : p.Sound := plan ▸ Plan.sound_make clean settings scope
  have discreet : p.Discreet := plan ▸ Plan.discreet_make d settings program scope
  have policy : p.retry = .ofSettings settings p.program.execution := by rw [plan]; rfl
  have ho := Orderly.of_reaches hp reached
  have bounded : s.flightIds.length ≤ program.execution.limit settings.parallelHardLimit := by
    have limit : p.limit = program.execution.limit settings.parallelHardLimit := by rw [plan]; rfl
    exact limit ▸ (length_flightIds s).le.trans (inFlight_le_limit reached)
  obtain ⟨parallel, other⟩ := program.execution.limit_le settings.parallelHardLimit
  refine ⟨fun id => mem_flightIds_iff hp reached, ho.nodup_flightIds hp,
    fun single => bounded.trans (other single), fun many => bounded.trans (parallel many),
    fun id number engaged => ?_, fun attempts nodup engaged => ?_,
    fun step vars dispatched t step' => dispatched.ne_of_launch hp⟩
  · obtain ⟨j, job, -, rfl, rfl⟩ := engaged.exists_job hp discreet policy reached
    refine ⟨List.mem_append_left _ (List.mem_map.2 ⟨j, job, rfl⟩), fun other again => ?_⟩
    obtain ⟨i, mem, -, same, rfl⟩ := again.exists_job hp discreet policy reached
    have found := ho.find?_job hp mem
    rw [same] at found
    rw [Option.some.inj (found.symm.trans (ho.find?_job hp job))]
  · rw [length_flightIds]
    exact length_engaged_le hp discreet policy reached nodup engaged

/-- The call and the mail go on at once, as many as the program allows. -/
theorem call_and_mail_go_on_at_once : ∃ context s,
    Reaches .free .overdue (RunState.start .overdue context false) s ∧
    s.flightIds = ["call", "mail"] ∧ (∀ a ∈ [("call", 1), ("mail", 1)], s.Engaged a.1 a.2) ∧
    2 ≤ s.flightIds.length ∧ s.flightIds.length ≤ max 1 (min 2 16) := by
  have goes : (Plan.overdue.after 6).flightIds = ["call", "mail"] ∧
      ∀ a ∈ [("call", 1), ("mail", 1)], (Plan.overdue.after 6).Engaged a.1 a.2 := by
    simp only [Plan.after, RunState.start, unreachable_overdue]
    decide +kernel
  obtain ⟨flight, engaged⟩ := goes
  have reached := (sound_overdue.reaches_after 6).free
  obtain ⟨-, -, -, bounded, -, handlers, -⟩ := flight_stays_within_limit clean_overdue rfl reached
  exact ⟨_, _, reached, flight, engaged, handlers _ (by decide) engaged, bounded rfl⟩

end Playbook
